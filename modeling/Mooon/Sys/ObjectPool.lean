import Mooon.Ring
import Mooon.Run
import Mathlib.Data.List.FinRange

/-! `CRawObjectPool`: objects in an array, lent and paid back through a `CArrayQueue` of pointers to
them. An object of the pool is known by its place in the array; its index, one more than that, is
not zero. -/
namespace Mooon.Sys.ObjectPool
open List Function Run

structure ArrayQueue (α : Type) where
  tail : Nat
  head : Nat
  queueSize : Nat
  queueMax : Nat
  elemArray : Nat → α

namespace ArrayQueue
variable {α : Type}

def new (queueMax : Nat) (elem : α) : ArrayQueue α := ⟨0,0,0,queueMax,fun _ => elem⟩

def isEmpty (queue : ArrayQueue α) : Bool := queue.queueSize == 0

def front (queue : ArrayQueue α) : α := queue.elemArray queue.head

def popFront (queue : ArrayQueue α) : ArrayQueue α × α :=
  ({queue with head := (queue.head + 1) % queue.queueMax, queueSize := queue.queueSize - 1},
    queue.elemArray queue.head)

def pushBack (elem : α) (queue : ArrayQueue α) : ArrayQueue α :=
  {queue with
    elemArray := Function.update queue.elemArray queue.tail elem
    tail := (queue.tail + 1) % queue.queueMax
    queueSize := queue.queueSize + 1}

def ofRing {queueMax : Nat} (ring : Ring α queueMax) : ArrayQueue α :=
  ⟨ring.tail,ring.head,ring.size,queueMax,ring.cells⟩

def Holds (queueMax : Nat) (queue : ArrayQueue α) (elements : List α) : Prop :=
  ∃ ring : Ring α queueMax, queue = ofRing ring ∧ ring.contents = elements

section
variable {queueMax : Nat} {queue : ArrayQueue α} {elements : List α}

theorem holds_new (positive : 0 < queueMax) (elem : α) : Holds queueMax (new queueMax elem) [] :=
  ⟨.empty elem positive,rfl,rfl⟩

section
variable (holds : Holds queueMax queue elements)
include holds

theorem Holds.size : queue.queueSize = elements.length := by
  obtain ⟨ring,rfl,rfl⟩ := holds
  rw [Ring.contents,length_map,length_range]
  rfl

theorem Holds.isEmpty : queue.isEmpty = elements.isEmpty := by
  rw [ArrayQueue.isEmpty,holds.size]
  cases elements <;> rfl

theorem Holds.pushBack (room : elements.length < queueMax) (elem : α) :
    Holds queueMax (queue.pushBack elem) (elements ++ [elem]) := by
  rw [← holds.size] at room
  obtain ⟨ring,rfl,rfl⟩ := holds
  exact ⟨ring.push elem room,rfl,ring.contents_push elem room⟩

end

theorem Holds.popFront {elem : α} (holds : Holds queueMax queue (elem::elements)) :
    Holds queueMax queue.popFront.1 elements ∧ queue.popFront.2 = elem := by
  have size := holds.size
  obtain ⟨ring,rfl,contents⟩ := holds
  have filled : 0 < ring.size := by
    change ring.size = _ at size
    rw [size]
    exact Nat.succ_pos _
  rw [ring.contents_pop filled] at contents
  obtain ⟨first,rest⟩ := cons.inj contents
  exact ⟨⟨ring.pop filled,rfl,rest⟩,first⟩

theorem Holds.pushAll (elems : List α) (holds : Holds queueMax queue elements)
    (room : elements.length + elems.length ≤ queueMax) :
    Holds queueMax (elems.foldl (fun queue elem => queue.pushBack elem) queue) (elements ++ elems) := by
  induction elems generalizing queue elements with
  | nil => simpa using holds
  | cons elem rest ih =>
    rw [length_cons] at room
    have pushed := holds.pushBack (by omega) elem
    have all := ih pushed (by rw [length_append,length_singleton]; omega)
    rwa [append_assoc] at all

end

end ArrayQueue

variable {objectNumber : Nat}

inductive Object (objectNumber : Nat) where
  | pooled (place : Fin objectNumber)
  | heap (id : Nat)
deriving DecidableEq

/-- `heap` are the objects from the heap that are not deleted; a second `delete` of one is undefined. -/
structure Pool (objectNumber : Nat) where
  useHeap : Bool
  avaliableNumber : Nat
  objectQueue : ArrayQueue (Fin objectNumber)
  inPool : Fin objectNumber → Bool
  heap : List Nat
  allocated : Nat
  undefined : Bool

def create (positive : 0 < objectNumber) (useHeap : Bool) : Pool objectNumber where
  useHeap
  avaliableNumber := objectNumber
  objectQueue := (List.finRange objectNumber).foldl (fun queue object => queue.pushBack object)
    (.new objectNumber ⟨0,positive⟩)
  inPool := fun _ => true
  heap := []
  allocated := 0
  undefined := false

def borrow (pool : Pool objectNumber) : Pool objectNumber × Option (Object objectNumber) :=
  if pool.objectQueue.isEmpty then
    if pool.useHeap then
      ({pool with heap := pool.allocated::pool.heap, allocated := pool.allocated + 1},
        some (.heap pool.allocated))
    else (pool,none)
  else
    let (queue,object) := pool.objectQueue.popFront
    ({pool with
      objectQueue := queue
      inPool := Function.update pool.inPool object false
      avaliableNumber := pool.avaliableNumber - 1},some (.pooled object))

def payBack (object : Object objectNumber) (pool : Pool objectNumber) : Pool objectNumber :=
  match object with
  | .heap id => if id ∈ pool.heap then
    {pool with heap := pool.heap.erase id} else {pool with undefined := true}
  | .pooled place =>
    if pool.inPool place then pool
    else {pool with
      inPool := Function.update pool.inPool place true
      objectQueue := pool.objectQueue.pushBack place
      avaliableNumber := pool.avaliableNumber + 1}

inductive Action (objectNumber : Nat) where
  | borrow
  | payBack (object : Object objectNumber)
deriving DecidableEq

def step (pool : Pool objectNumber) : Action objectNumber → Pool objectNumber × Option (Object objectNumber)
  | .borrow => borrow pool
  | .payBack object => (payBack object pool,none)

/-- The objects that are there, in the order in which they are lent, those that are lent, and the
numbers of the objects from the heap. -/
structure Stock (objectNumber : Nat) where
  free : List (Fin objectNumber)
  lent : List (Fin objectNumber)
  heap : List Nat
  allocated : Nat

def Stock.full : Stock objectNumber := ⟨List.finRange objectNumber,[],[],0⟩

def expected (useHeap : Bool) (stock : Stock objectNumber) :
    Action objectNumber → Stock objectNumber × Option (Object objectNumber)
  | .borrow =>
    match stock.free with
    | object::rest => ({stock with free := rest, lent := object::stock.lent},some (.pooled object))
    | [] =>
      if useHeap then
        ({stock with heap := stock.allocated::stock.heap, allocated := stock.allocated + 1},
          some (.heap stock.allocated))
      else (stock,none)
  | .payBack (.pooled object) =>
    if object ∈ stock.lent then
      ({stock with free := stock.free ++ [object], lent := stock.lent.erase object},none)
    else (stock,none)
  | .payBack (.heap id) => ({stock with heap := stock.heap.erase id},none)

def Allowed (stock : Stock objectNumber) : Action objectNumber → Prop
  | .payBack (.heap id) => id ∈ stock.heap
  | _ => True

instance (stock : Stock objectNumber) : (action : Action objectNumber) → Decidable (Allowed stock action)
  | .payBack (.heap id) => inferInstanceAs (Decidable (id ∈ stock.heap))
  | .payBack (.pooled _) | .borrow => inferInstanceAs (Decidable True)

variable {useHeap : Bool} {stock : Stock objectNumber}

theorem expected_pooled {object : Fin objectNumber}
    (borrowed : (expected useHeap stock .borrow).2 = some (.pooled object)) : object ∈ stock.free := by
  obtain ⟨free,lent,heap,allocated⟩ := stock
  cases free with
  | nil => cases useHeap <;> cases borrowed
  | cons first rest =>
    cases borrowed
    exact mem_cons_self

theorem expected_none (refused : (expected useHeap stock .borrow).2 = none) :
    useHeap = false ∧ stock.free = [] := by
  obtain ⟨free,lent,heap,allocated⟩ := stock
  cases free with
  | nil =>
    cases useHeap with
    | false => exact ⟨rfl,rfl⟩
    | true => cases refused
  | cons first rest => cases refused

/-- The queue has the objects that are there, and with those that are lent they are all. -/
structure Matches (useHeap : Bool) (pool : Pool objectNumber) (stock : Stock objectNumber) : Prop where
  setting : pool.useHeap = useHeap
  queue : ArrayQueue.Holds objectNumber pool.objectQueue stock.free
  parted : (stock.free ++ stock.lent).Perm (List.finRange objectNumber)
  inPool : ∀ object, pool.inPool object = true ↔ object ∈ stock.free
  avaliable : pool.avaliableNumber = stock.free.length
  heap : pool.heap = stock.heap ∧ pool.allocated = stock.allocated
  defined : pool.undefined = false

section
variable {useHeap : Bool} {pool : Pool objectNumber} {stock : Stock objectNumber}

theorem create_matches (positive : 0 < objectNumber) :
    Matches useHeap (create positive useHeap) .full := by
  have queue := (ArrayQueue.holds_new positive ⟨0,positive⟩).pushAll (finRange objectNumber) (by simp)
  refine ⟨rfl,queue,?_,?_,?_,⟨rfl,rfl⟩,rfl⟩
  · exact List.Perm.of_eq (append_nil _)
  · exact fun object => iff_of_true rfl (mem_finRange object)
  · exact length_finRange.symm

namespace Matches
variable (fits : Matches useHeap pool stock)
include fits

theorem distinct : (stock.free ++ stock.lent).Nodup := fits.parted.nodup_iff.mpr (nodup_finRange _)

theorem mem_lent {object : Fin objectNumber} : object ∈ stock.lent ↔ object ∉ stock.free := by
  constructor
  · exact fun lent free => disjoint_of_nodup_append fits.distinct free lent
  · intro absent
    have member := fits.parted.mem_iff.mpr (mem_finRange object)
    exact (mem_append.mp member).resolve_left absent

theorem bounded : stock.free.length + stock.lent.length = objectNumber := by
  rw [← length_append,fits.parted.length_eq,length_finRange]

theorem borrow : Matches useHeap (borrow pool).1 (expected useHeap stock .borrow).1 ∧
    (ObjectPool.borrow pool).2 = (expected useHeap stock .borrow).2 := by
  obtain ⟨free,lent,heap,allocated⟩ := stock
  obtain ⟨sameHeap,sameNumber⟩ := fits.heap
  cases free with
  | nil =>
    have empty : pool.objectQueue.isEmpty = true := fits.queue.isEmpty
    rw [ObjectPool.borrow,if_pos empty]
    cases useHeap with
    | false =>
      rw [if_neg (fits.setting ▸ Bool.false_ne_true)]
      exact ⟨fits,rfl⟩
    | true =>
      rw [if_pos fits.setting]
      refine ⟨{fits with heap := ⟨?_,?_⟩},?_⟩
      · exact congr (congrArg cons sameNumber) sameHeap
      · exact congrArg (· + 1) sameNumber
      · exact congrArg (fun id => some (Object.heap id)) sameNumber
  | cons object rest =>
    have filled := fits.queue.isEmpty
    obtain ⟨queue,popped⟩ := fits.queue.popFront
    have once := (nodup_cons.mp fits.distinct.of_append_left).1
    rw [ObjectPool.borrow,if_neg (filled ▸ Bool.false_ne_true)]
    dsimp only
    rw [popped]
    refine ⟨⟨fits.setting,queue,?_,?_,?_,fits.heap,fits.defined⟩,rfl⟩
    · exact perm_middle.trans fits.parted
    · intro other
      by_cases same : other = object
      · subst same
        exact iff_of_false (by simp) once
      · have before := fits.inPool other
        simpa [expected,same] using before
    · have count := fits.avaliable
      exact congrArg (· - 1) count

theorem payBack {object : Object objectNumber} (allowed : Allowed stock (.payBack object)) :
    Matches useHeap (payBack object pool) (expected useHeap stock (.payBack object)).1 := by
  cases object with
  | heap id =>
    have live : id ∈ pool.heap := fits.heap.1 ▸ allowed
    rw [ObjectPool.payBack,if_pos live]
    exact {fits with heap := ⟨congrArg (List.erase · id) fits.heap.1,fits.heap.2⟩}
  | pooled place =>
    unfold ObjectPool.payBack expected
    dsimp only
    by_cases lent : place ∈ stock.lent
    · have out : ¬pool.inPool place = true := by
        rw [fits.inPool]
        exact fits.mem_lent.mp lent
      have room : stock.free.length < objectNumber := by
        have all := fits.bounded
        have some := length_pos_of_mem lent
        omega
      rw [if_neg out,if_pos lent]
      refine ⟨fits.setting,fits.queue.pushBack room place,?_,?_,?_,fits.heap,fits.defined⟩
      · rw [append_assoc]
        exact ((perm_cons_erase lent).symm.append_left _).trans fits.parted
      · intro other
        by_cases same : other = place
        · simp [same]
        · have before := fits.inPool other
          simpa [same] using before
      · rw [length_append]
        exact congrArg (· + 1) fits.avaliable
    · have there : pool.inPool place = true := by
        rw [fits.inPool]
        exact not_not.mp fun absent => lent (fits.mem_lent.mpr absent)
      rw [if_pos there,if_neg lent]
      exact fits

theorem step (act : Action objectNumber) (allowed : Allowed stock act) :
    Matches useHeap (step pool act).1 (expected useHeap stock act).1 ∧
      (ObjectPool.step pool act).2 = (expected useHeap stock act).2 := by
  cases act with
  | borrow => exact fits.borrow
  | payBack object =>
    refine ⟨fits.payBack allowed,?_⟩
    cases object with
    | heap id => rfl
    | pooled place =>
      unfold expected
      dsimp only
      split_ifs <;> rfl

end Matches
end

/-- At every point of a run the queue is first in, first out with the objects that are not lent, as
their flags say, and the pool lends an object that is not lent, or none when all are. -/
theorem objects_lent_once (positive : 0 < objectNumber) (useHeap : Bool)
    (actions : List (Action objectNumber))
    (allowed : Run.Meets Allowed (expected useHeap) .full actions) :
    let pool := final step (create positive useHeap) actions
    let stock := final (expected useHeap) .full actions
    Matches useHeap pool stock ∧
      outputs step (create positive useHeap) actions = outputs (expected useHeap) .full actions ∧
      (∀ object, (step pool .borrow).2 = some (.pooled object) → object ∉ stock.lent) ∧
      ((step pool .borrow).2 = none → useHeap = false ∧ ∀ object, object ∈ stock.lent) := by
  obtain ⟨fits,answers⟩ := follows (fun stock pool => Matches useHeap pool stock)
    (fun _ _ action fits allowed => fits.step action allowed) _ _ actions (create_matches positive) allowed
  obtain ⟨-,answer⟩ := fits.borrow
  refine ⟨fits,answers,?_,?_⟩
  · intro object borrowed
    rw [fits.mem_lent,not_not]
    exact expected_pooled (answer.symm.trans borrowed)
  · intro refused
    obtain ⟨none,empty⟩ := expected_none (answer.symm.trans refused)
    refine ⟨none,fun object => ?_⟩
    rw [fits.mem_lent,empty]
    exact not_mem_nil

def lending : List (Action 2) :=
  [.borrow,.borrow,.borrow,.payBack (.pooled 1),.payBack (.pooled 1),.payBack (.heap 0),.borrow]

theorem objects_lent_once_lending : outputs step (create (by decide) true) lending =
        [some (.pooled 0),some (.pooled 1),some (.heap 0),none,none,none,some (.pooled 1)] ∧
      Matches true (final step (create (by decide) true) lending) ⟨[],[1,0],[],1⟩ := by
  obtain ⟨fits,answers,-⟩ := objects_lent_once (by decide) true lending (by decide)
  exact ⟨answers,fits⟩

end Mooon.Sys.ObjectPool

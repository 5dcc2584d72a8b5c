import Mooon.Linked
import Mooon.Run

/-! `CTimeoutManager` over `CListQueue`. The pointers and the timestamps are in the objects; the
head of the list is an object of its own. Times are in seconds. -/
namespace Mooon.Utils.TimeoutManager
open List Option Function Run Prod
variable {α : Type} [DecidableEq α]

/-- `number` is a 32-bit `int` in the source: there it is right for up to 2^31-1 objects. -/
structure ListQueue (α : Type) where
  links : Linked α
  number : Int

def ListQueue.empty : ListQueue α := ⟨.empty,0⟩

namespace ListQueue

def isEmpty (queue : ListQueue α) : Bool := queue.number == 0

def front (queue : ListQueue α) : Option α := queue.links.next .head

def push (listable : α) (queue : ListQueue α) : ListQueue α :=
  match queue.links.prev listable with
  | some _ => queue
  | none => ⟨queue.links.append listable,queue.number + 1⟩

def remove (listable : α) (queue : ListQueue α) : ListQueue α :=
  match queue.links.prev listable with
  | none => queue
  | some prev => ⟨queue.links.unlink listable prev,queue.number - 1⟩

end ListQueue

structure Manager (α : Type) where
  timeoutSeconds : UInt32
  queue : ListQueue α
  timestamp : α → Int

def Manager.created (timeoutSeconds : UInt32) : Manager α := ⟨timeoutSeconds,.empty,fun _ => 0⟩

namespace Manager

def push (timeoutable : α) (now : Int) (manager : Manager α) : Manager α :=
  {manager with
    timestamp := Function.update manager.timestamp timeoutable now
    queue := manager.queue.push timeoutable}

def remove (timeoutable : α) (manager : Manager α) : Manager α :=
  {manager with
    timestamp := Function.update manager.timestamp timeoutable 0
    queue := manager.queue.remove timeoutable}

def popFront (manager : Manager α) : Manager α × Option α :=
  if manager.queue.isEmpty then (manager,none)
  else
    match manager.queue.front with
    | none => (manager,none)
    | some timeoutable => ({manager with queue := manager.queue.remove timeoutable},some timeoutable)

def update (timeoutable : α) (now : Int) (manager : Manager α) : Manager α :=
  (manager.remove timeoutable).push timeoutable now

def isTimeout (timeoutSeconds : UInt32) (last now : Int) : Bool := last + timeoutSeconds.toNat < now

def onTimeoutEvent (again : Bool) (timeoutable : α) (now : Int) (manager : Manager α) : Manager α :=
  if again then manager.push timeoutable now else manager

/-- The loop of `check_timeout` and the objects it passes to the handler, with what the handler does
with each; `none` when it goes on after the rounds that it is given. -/
def checkLoop (now : Int) : Nat → (Nat → Bool) → Manager α → Option (Manager α × List α)
  | 0, _, _ => none
  | rounds+1, again, manager =>
    match manager.queue.front with
    | none => some (manager,[])
    | some timeoutable =>
      if isTimeout manager.timeoutSeconds (manager.timestamp timeoutable) now then
        let removed := {manager with queue := manager.queue.remove timeoutable}
        match checkLoop now rounds (fun i => again (i+1))
          (onTimeoutEvent (again 0) timeoutable now removed) with
        | none => none
        | some (after,passed) => some (after,timeoutable::passed)
      else some (manager,[])

/-- One round for each object in the queue, and one more to find that there is nothing left to do. -/
def checkTimeout (now : Int) (again : Nat → Bool) (manager : Manager α) : Option (Manager α × List α) :=
  checkLoop now (manager.queue.number.toNat + 1) again manager

end Manager

inductive Action (α : Type) where
  | push (timeoutable : α) (now : Int)
  | remove (timeoutable : α)
  | popFront
  | update (timeoutable : α) (now : Int)
  | checkTimeout (now : Int) (again : Nat → Bool)

/-- The objects that a call hands out: to the caller or to the handler. There are none of a call
that does not end. -/
def step (manager : Manager α) : Action α → Manager α × Option (List α)
  | .push timeoutable now => (manager.push timeoutable now,some [])
  | .remove timeoutable => (manager.remove timeoutable,some [])
  | .popFront => (manager.popFront.1,some manager.popFront.2.toList)
  | .update timeoutable now => (manager.update timeoutable now,some [])
  | .checkTimeout now again =>
    match manager.checkTimeout now again with
    | none => (manager,none)
    | some (after,passed) => (after,some passed)

abbrev Entry (α : Type) := α × Int

def Expired (timeoutSeconds : UInt32) (now : Int) (entry : Entry α) : Prop :=
  entry.2 + timeoutSeconds.toNat < now
deriving Decidable

def chosen (again : Nat → Bool) : List α → List α
  | [] => []
  | object::rest => (if again 0 then [object] else []) ++ chosen (fun i => again (i+1)) rest

def expected (timeoutSeconds : UInt32) (entries : List (Entry α)) : Action α → List (Entry α) × List α
  | .push timeoutable now => (entries ++ [(timeoutable,now)],[])
  | .remove timeoutable => (entries.filter (·.1 ≠ timeoutable),[])
  | .popFront => (entries.tail,(entries.head?.map Prod.fst).toList)
  | .update timeoutable now => (entries.filter (·.1 ≠ timeoutable) ++ [(timeoutable,now)],[])
  | .checkTimeout now again =>
    let expired := (entries.filter (Expired timeoutSeconds now ·)).map Prod.fst
    (entries.filter (¬Expired timeoutSeconds now ·) ++ (chosen again expired).map fun object =>
      (object,now),expired)

/-- The pointers of the queue are those of the list, which is sorted by time, and the counter is its
length. -/
structure Holds (timeoutSeconds : UInt32) (manager : Manager α) (entries : List (Entry α)) : Prop where
  seconds : manager.timeoutSeconds = timeoutSeconds
  linked : manager.queue.links.Represents (entries.map Prod.fst)
  number : manager.queue.number = entries.length
  stamped : ∀ entry ∈ entries, manager.timestamp entry.1 = entry.2
  sorted : (entries.map Prod.snd).Pairwise (· ≤ ·)

def Unqueued (entries : List (Entry α)) : Action α → Prop
  | .push timeoutable _ => timeoutable ∉ entries.map Prod.fst
  | _ => True

instance (entries : List (Entry α)) : (action : Action α) → Decidable (Unqueued entries action)
  | .push timeoutable _ => inferInstanceAs (Decidable (timeoutable ∉ entries.map Prod.fst))
  | .remove _ | .popFront | .update _ _ | .checkTimeout _ _ => inferInstanceAs (Decidable True)

def Action.time : Action α → Option Int
  | .push _ now | .update _ now | .checkTimeout now _ => some now
  | .remove _ | .popFront => none

section
variable {timeoutSeconds : UInt32} {manager : Manager α} {entries : List (Entry α)}

omit [DecidableEq α] in
theorem created_holds : Holds timeoutSeconds (.created timeoutSeconds : Manager α) [] :=
  ⟨rfl,Linked.represents_empty,rfl,fun _ inside => absurd inside not_mem_nil,.nil⟩

omit [DecidableEq α] in
theorem Holds.front (holds : Holds timeoutSeconds manager entries) :
    manager.queue.front = entries.head?.map fst := by
  rw [ListQueue.front,holds.linked.next_head,head?_map]

variable {object : α}

theorem Holds.stamp (holds : Holds timeoutSeconds manager entries)
    (absent : object ∉ entries.map fst) (time : Int) :
    Holds timeoutSeconds {manager with timestamp := update manager.timestamp object time} entries := by
  refine {holds with stamped := ?_}
  intro entry inside
  have other : entry.1 ≠ object := fun same => absent (same ▸ mem_map_of_mem inside)
  exact (update_of_ne other _ _).trans (holds.stamped entry inside)

variable {now : Int}

theorem Holds.push (holds : Holds timeoutSeconds manager entries) (absent : object ∉ entries.map fst)
    (early : ∀ entry ∈ entries, entry.2 ≤ now) :
    Holds timeoutSeconds (manager.push object now) (entries ++ [(object,now)]) := by
  have stamped := (holds.stamp absent now).stamped
  have pushed : manager.queue.push object = ⟨manager.queue.links.append object,manager.queue.number + 1⟩ := by
    rw [ListQueue.push,(holds.linked.prev_eq_none object).mpr absent]
  refine ⟨holds.seconds,?_,?_,?_,?_⟩
  · rw [Manager.push,pushed,map_append]
    exact holds.linked.append absent
  · rw [Manager.push,pushed,length_append]
    exact congrArg (· + 1) holds.number
  · rw [forall_mem_append,forall_mem_singleton]
    exact ⟨stamped,update_self _ _ _⟩
  · rw [map_append,pairwise_append]
    refine ⟨holds.sorted,pairwise_singleton _ _,?_⟩
    rintro time inside _ last
    obtain ⟨entry,there,rfl⟩ := mem_map.mp inside
    rw [mem_singleton.mp last]
    exact early entry there

theorem filter_absent (absent : object ∉ entries.map fst) : entries.filter (·.1 ≠ object) = entries := by
  rw [filter_eq_self]
  intro entry inside
  exact decide_eq_true fun same => absent (same ▸ mem_map_of_mem inside)

theorem filter_split {before after : List (Entry α)} {entry : Entry α}
    (nodup : ((before ++ entry::after).map fst).Nodup) :
    (before ++ entry::after).filter (·.1 ≠ entry.1) = before ++ after := by
  rw [map_append] at nodup
  obtain ⟨missing,-⟩ := nodup_cons.mp (nodup_middle.mp nodup)
  rw [← map_append] at missing
  rw [filter_append,filter_cons_of_neg (by simp),← filter_append]
  exact filter_absent missing

theorem Holds.unlink (holds : Holds timeoutSeconds manager entries) (object : α) :
    Holds timeoutSeconds {manager with queue := manager.queue.remove object}
      (entries.filter (·.1 ≠ object)) := by
  by_cases absent : object ∉ entries.map fst
  · have same : manager.queue.remove object = manager.queue := by
      rw [ListQueue.remove,(holds.linked.prev_eq_none object).mpr absent]
    rw [filter_absent absent,same]
    exact holds
  · obtain ⟨entry,inside,rfl⟩ := mem_map.mp (not_not.mp absent)
    obtain ⟨before,after,rfl⟩ := append_of_mem inside
    have linked := holds.linked
    rw [filter_split linked.distinct]
    rw [map_append] at linked
    have same : manager.queue.remove entry.1 =
        ⟨manager.queue.links.unlink entry.1 (Linked.endOf (before.map fst)),manager.queue.number - 1⟩ := by
      rw [ListQueue.remove,linked.prev _ _ _ rfl]
    have kept : (before ++ after).Sublist (before ++ entry::after) := (sublist_cons_self _ _).append_left _
    rw [same]
    refine ⟨holds.seconds,?_,?_,fun entry mem => holds.stamped entry (kept.subset mem),
      holds.sorted.sublist (kept.map _)⟩
    · rw [map_append]
      exact linked.unlink
    · have number := holds.number
      simp only [length_append,length_cons] at number ⊢
      omega

theorem Holds.remove (holds : Holds timeoutSeconds manager entries) (object : α) :
    Holds timeoutSeconds (manager.remove object) (entries.filter (·.1 ≠ object)) := by
  apply (holds.unlink object).stamp
  simp

variable {entry : Entry α} {rest : List (Entry α)}

theorem Holds.tail (holds : Holds timeoutSeconds manager (entry::rest)) :
    Holds timeoutSeconds {manager with queue := manager.queue.remove entry.1} rest := by
  have removed := holds.unlink entry.1
  rwa [← nil_append (entry::rest),filter_split holds.linked.distinct] at removed

theorem Holds.popFront (holds : Holds timeoutSeconds manager entries) :
    Holds timeoutSeconds manager.popFront.1 entries.tail ∧ manager.popFront.2 = entries.head?.map fst := by
  have front := holds.front
  have number := holds.number
  unfold Manager.popFront ListQueue.isEmpty
  cases entries with
  | nil =>
    rw [number]
    exact ⟨holds,rfl⟩
  | cons entry rest =>
    have filled : ¬(manager.queue.number == 0) = true := by
      rw [number,length_cons,beq_iff_eq]
      omega
    rw [if_neg filled,front]
    exact ⟨holds.tail,rfl⟩

theorem Holds.onTimeoutEvent (holds : Holds timeoutSeconds manager entries) (again : Bool)
    (absent : object ∉ entries.map fst) (early : ∀ entry ∈ entries, entry.2 ≤ now) :
    Holds timeoutSeconds (manager.onTimeoutEvent again object now)
      (entries ++ if again then [(object,now)] else []) := by
  unfold Manager.onTimeoutEvent
  cases again with
  | false => simpa using holds
  | true => exact holds.push absent early

variable {timeoutSeconds : UInt32}

omit [DecidableEq α] in
theorem filter_expired (sorted : ((entry::rest).map snd).Pairwise (· ≤ ·))
    (young : ¬Expired timeoutSeconds now entry) :
    (entry::rest).filter (Expired timeoutSeconds now ·) = [] ∧
      (entry::rest).filter (¬Expired timeoutSeconds now ·) = entry::rest := by
  have all : ∀ other ∈ entry::rest, ¬Expired timeoutSeconds now other := by
    rw [forall_mem_cons]
    refine ⟨young,fun other inside => ?_⟩
    rw [map_cons,pairwise_cons] at sorted
    have later := sorted.1 other.2 (mem_map_of_mem inside)
    unfold Expired at young ⊢
    omega
  constructor
  · rw [filter_eq_nil_iff]
    exact fun other inside => by simpa using all other inside
  · rw [filter_eq_self]
    exact fun other inside => decide_eq_true (all other inside)

theorem expected_cons {again : Nat → Bool} (old : Expired timeoutSeconds now entry) :
    expected timeoutSeconds (entry::rest) (.checkTimeout now again) =
      let later := expected timeoutSeconds (rest ++ if again 0 then [(entry.1,now)] else [])
        (.checkTimeout now fun i => again (i+1))
      (later.1,entry.1::later.2) := by
  have young : ¬Expired timeoutSeconds now (entry.1,now) := by
    unfold Expired
    omega
  cases first : again 0 with
  | false => simp [expected,old,chosen,first]
  | true => simp [expected,old,young,chosen,first]

theorem Holds.checkLoop (rounds : Nat) (again : Nat → Bool)
    (holds : Holds timeoutSeconds manager entries) (early : ∀ entry ∈ entries, entry.2 ≤ now)
    (enough : (expected timeoutSeconds entries (.checkTimeout now again)).2.length < rounds) :
    ∃ after, manager.checkLoop now rounds again =
        some (after,(expected timeoutSeconds entries (.checkTimeout now again)).2) ∧
      Holds timeoutSeconds after (expected timeoutSeconds entries (.checkTimeout now again)).1 := by
  induction rounds generalizing manager entries again with
  | zero => exact absurd enough (Nat.not_lt_zero _)
  | succ rounds ih =>
    have front := holds.front
    unfold Manager.checkLoop
    cases entries with
    | nil =>
      rw [front]
      exact ⟨manager,rfl,holds⟩
    | cons entry rest =>
      rw [front]
      dsimp only [head?_cons,map_some]
      rw [holds.stamped entry mem_cons_self]
      by_cases old : Expired timeoutSeconds now entry
      · have timeout : Manager.isTimeout manager.timeoutSeconds entry.2 now = true := by
          rw [holds.seconds]
          exact decide_eq_true old
        have absent := (nodup_cons.mp holds.linked.distinct).1
        have later : ∀ entry ∈ rest, entry.2 ≤ now := fun other inside =>
          early other (mem_cons_of_mem _ inside)
        have next := holds.tail.onTimeoutEvent (again 0) absent later
        have soon : ∀ other ∈ rest ++ (if again 0 then [(entry.1,now)] else []), other.2 ≤ now := by
          rw [forall_mem_append]
          refine ⟨later,?_⟩
          cases again 0 with
          | false => exact fun _ inside => absurd inside not_mem_nil
          | true => exact forall_mem_singleton.mpr (Int.le_refl now)
        rw [expected_cons old] at enough ⊢
        obtain ⟨after,ended,done⟩ := ih (fun i => again (i+1)) next soon (Nat.lt_of_succ_lt_succ enough)
        rw [if_pos timeout,ended]
        exact ⟨after,rfl,done⟩
      · have timeout : ¬Manager.isTimeout manager.timeoutSeconds entry.2 now = true := by
          rw [Manager.isTimeout,holds.seconds,decide_eq_true_eq]
          exact old
        obtain ⟨none,all⟩ := filter_expired holds.sorted old
        have same : expected timeoutSeconds (entry::rest) (.checkTimeout now again) = (entry::rest,[]) := by
          rw [expected,none,all]
          exact congrArg (·,[]) (append_nil _)
        rw [if_neg timeout,same]
        exact ⟨manager,rfl,holds⟩

theorem Holds.checkTimeout (holds : Holds timeoutSeconds manager entries) (again : Nat → Bool)
    (early : ∀ entry ∈ entries, entry.2 ≤ now) : ∃ after, manager.checkTimeout now again =
        some (after,(expected timeoutSeconds entries (.checkTimeout now again)).2) ∧
      Holds timeoutSeconds after (expected timeoutSeconds entries (.checkTimeout now again)).1 := by
  apply holds.checkLoop _ again early
  rw [holds.number,expected,length_map]
  exact Nat.lt_succ_of_le (length_filter_le _ _)

end

section
variable {timeoutSeconds : UInt32} {manager : Manager α} {entries : List (Entry α)}

theorem Holds.step (holds : Holds timeoutSeconds manager entries) (act : Action α)
    (unqueued : Unqueued entries act) (early : ∀ now ∈ act.time, ∀ entry ∈ entries, entry.2 ≤ now) :
    Holds timeoutSeconds (step manager act).1 (expected timeoutSeconds entries act).1 ∧
      (step manager act).2 = some (expected timeoutSeconds entries act).2 := by
  cases act with
  | push object now => exact ⟨holds.push unqueued (early now rfl),rfl⟩
  | remove object => exact ⟨holds.remove object,rfl⟩
  | popFront =>
    obtain ⟨kept,popped⟩ := holds.popFront
    exact ⟨kept,congrArg (fun object : Option α => some object.toList) popped⟩
  | update object now =>
    refine ⟨(holds.remove object).push (by simp) ?_,rfl⟩
    exact fun entry inside => early now rfl entry (mem_of_mem_filter inside)
  | checkTimeout now again =>
    obtain ⟨after,ended,done⟩ := holds.checkTimeout again (early now rfl)
    have stepped : TimeoutManager.step manager (.checkTimeout now again) =
        (after,some (expected timeoutSeconds entries (.checkTimeout now again)).2) := by
      simp only [TimeoutManager.step,ended]
    rw [stepped]
    exact ⟨done,rfl⟩

theorem time_expected {act : Action α} {entry : Entry α}
    (inside : entry ∈ (expected timeoutSeconds entries act).1) :
    entry ∈ entries ∨ act.time = some entry.2 := by
  cases act with
  | push object now =>
    rcases mem_append.mp inside with before | last
    · exact .inl before
    · rw [mem_singleton.mp last]
      exact .inr rfl
  | remove object => exact .inl (mem_of_mem_filter inside)
  | popFront => exact .inl (mem_of_mem_tail inside)
  | update object now =>
    rcases mem_append.mp inside with before | last
    · exact .inl (mem_of_mem_filter before)
    · rw [mem_singleton.mp last]
      exact .inr rfl
  | checkTimeout now again =>
    rcases mem_append.mp inside with before | again
    · exact .inl (mem_of_mem_filter before)
    · obtain ⟨object,-,rfl⟩ := mem_map.mp again
      exact .inr rfl

theorem Holds.run (before after : List (Action α)) (holds : Holds timeoutSeconds manager entries)
    (early : ∀ now ∈ (before ++ after).filterMap Action.time, ∀ entry ∈ entries, entry.2 ≤ now)
    (ordered : ((before ++ after).filterMap Action.time).Pairwise (· ≤ ·))
    (unqueued : Run.Meets Unqueued (expected timeoutSeconds) entries before) :
    Holds timeoutSeconds (final TimeoutManager.step manager before)
        (final (expected timeoutSeconds) entries before) ∧ ∀ now ∈ after.filterMap Action.time,
        ∀ entry ∈ final (expected timeoutSeconds) entries before, entry.2 ≤ now := by
  induction before generalizing manager entries with
  | nil => exact ⟨holds,early⟩
  | cons act before ih =>
    have here : ∀ now ∈ act.time, ∀ entry ∈ entries, entry.2 ≤ now := by
      intro now timed
      exact early now (mem_filterMap.mpr ⟨act,mem_cons_self,timed⟩)
    rw [cons_append,pairwise_filterMap,pairwise_cons] at ordered
    apply ih (holds.step act unqueued.1 here).1
    · intro now timed entry inside
      obtain ⟨later,mem,found⟩ := mem_filterMap.mp timed
      rcases time_expected inside with old | new
      · exact early now (mem_filterMap.mpr ⟨later,mem_cons_of_mem _ mem,found⟩) entry old
      · exact ordered.1 later mem _ new _ found
    · exact pairwise_filterMap.mpr ordered.2
    · exact unqueued.2

end

/-- At every point of a run the queue is a linked list of the expected objects in the order of their
times, and a check passes on those of them that have timed out. -/
theorem timeouts_in_queue_order (timeoutSeconds : UInt32) (before after : List (Action α))
    (ordered : ((before ++ after).filterMap Action.time).Pairwise (· ≤ ·))
    (unqueued : Run.Meets Unqueued (expected timeoutSeconds) [] (before ++ after)) :
    let manager := final step (.created timeoutSeconds) before
    let entries := final (expected timeoutSeconds) [] before
    Holds timeoutSeconds manager entries ∧ ∀ now again rest, after = .checkTimeout now again :: rest →
      (step manager (.checkTimeout now again)).2 =
        some ((entries.filter fun entry => entry.2 + timeoutSeconds.toNat < now).map fst) := by
  obtain ⟨holds,early⟩ := created_holds.run before after
    (fun _ _ _ inside => absurd inside not_mem_nil) ordered (meets_take _ _ _ unqueued)
  refine ⟨holds,?_⟩
  rintro now again rest rfl
  refine (holds.step (.checkTimeout now again) trivial ?_).2
  rintro _ ⟨⟩
  exact early now (mem_filterMap.mpr ⟨_,mem_cons_self,rfl⟩)

def waiting : List (Action Nat) := [.push 1 10,.push 2 11,.update 1 12,.push 3 15,.remove 4]

theorem timeouts_in_queue_order_waiting :
    (step (final step (.created 5) waiting) (.checkTimeout 18 fun i => i = 1)).2 = some [2,1] :=
  (timeouts_in_queue_order 5 waiting [.checkTimeout 18 fun i => i = 1] (by decide) (by decide)).2 18 _ [] rfl

end Mooon.Utils.TimeoutManager

import Mooon.Server.WorkThread
import Mathlib.Data.Fintype.Basic
import Mathlib.Algebra.BigOperators.Group.Finset.Piecewise

/-! Ownership of waiters and descriptors in a work thread. Each waiter has its place, and for
each descriptor the waiters that hold it and the closes of it add up to one. -/
namespace Mooon.Server.WorkThread
open List Option Run
variable {size : Nat}

def holders (thread : WorkThread size) (fd : Nat) : Nat :=
  ∑ waiter, if (thread.waiters waiter).fd = some fd then 1 else 0

/-- In the pool with nothing attached, or watched with a descriptor. -/
def Placed (thread : WorkThread size) (waiter : Fin size) : Prop :=
  (waiter ∈ thread.pool ∧ (thread.waiters waiter).inPool = true ∧ (thread.waiters waiter).fd = none ∧
      (thread.waiters waiter).epollEvents = none ∧ waiter ∉ thread.timeouts) ∨
    (waiter ∉ thread.pool ∧ (thread.waiters waiter).inPool = false ∧ (thread.waiters waiter).fd ≠ none ∧
      waiter ∈ thread.timeouts)

structure Valid (thread : WorkThread size) : Prop where
  nodup : thread.pool.Nodup
  placed : ∀ waiter, thread.Placed waiter
  epoll : ∀ entry ∈ thread.epoll, (thread.waiters entry.2).fd = some entry.1
  balance : ∀ fd, thread.closes.count fd + thread.holders fd = if fd < thread.accepted then 1 else 0
  batch : ∀ waiter, .waiter waiter ∈ thread.batch → waiter ∉ thread.pool
  once : thread.batch.Nodup

section
variable (thread : WorkThread size)

theorem set_self (waiter : Fin size) (value : Waiter) :
    (thread.set waiter value).waiters waiter = value := Function.update_self _ _ _

variable {waiter : Fin size}

theorem set_other {other : Fin size} (nodup : other ≠ waiter) (value : Waiter) :
    (thread.set waiter value).waiters other = thread.waiters other := Function.update_of_ne nodup _ _

theorem holders_set (waiter : Fin size) (value : Waiter) (fd : Nat) :
    (thread.set waiter value).holders fd + (if (thread.waiters waiter).fd = some fd then 1 else 0) =
      thread.holders fd + (if value.fd = some fd then 1 else 0) := by
  have before := Finset.sum_erase_add Finset.univ (fun other => if (thread.waiters other).fd =
    some fd then 1 else 0)
    (Finset.mem_univ waiter)
  have after := Finset.sum_erase_add Finset.univ
    (fun other => if ((thread.set waiter value).waiters other).fd = some fd then 1 else 0)
      (Finset.mem_univ waiter)
  have others : ∑ other ∈ Finset.univ.erase waiter,
    (if ((thread.set waiter value).waiters other).fd = some fd then 1 else 0) =
      ∑ other ∈ Finset.univ.erase waiter, if (thread.waiters other).fd = some fd then 1 else 0 := by
    refine Finset.sum_congr rfl (fun other mem => ?_)
    rw [set_other _ (Finset.ne_of_mem_erase mem)]
  rw [set_self] at after
  rw [holders,holders]
  omega

end

variable {thread : WorkThread size}

theorem Placed.of_same {later : WorkThread size} (placed : thread.Placed waiter)
    (same : later.waiters waiter = thread.waiters waiter) (pool : waiter ∈ later.pool ↔ waiter ∈ thread.pool)
    (timeouts : waiter ∈ later.timeouts ↔ waiter ∈ thread.timeouts) : later.Placed waiter := by
  rw [Placed] at placed ⊢
  rwa [same,pool,timeouts]

theorem Valid.start (size timeoutSeconds currentTime : Nat) :
    (start size timeoutSeconds currentTime).Valid := by
  constructor <;> simp [WorkThread.start,nodup_finRange,Placed,holders]

theorem Valid.owned (valid : thread.Valid) : thread.Owned := by
  constructor
  · intro waiter
    rcases valid.placed waiter with ⟨pooled,-,none,-,absent⟩ | ⟨outside,-,-,there⟩
    · refine .inl ⟨pooled,absent,fun fd entry => ?_⟩
      have held := valid.epoll _ entry
      rw [none] at held
      cases held
    · exact .inr ⟨outside,there⟩
  · intro fd accepted
    have balance := valid.balance fd
    rw [if_pos accepted,holders,← Finset.card_filter] at balance
    by_cases closed : thread.closes.count fd = 0
    · rw [closed,Nat.zero_add] at balance
      obtain ⟨waiter,only⟩ := Finset.card_eq_one.mp balance
      have held (other : Fin size) : (thread.waiters other).fd = some fd ↔ other = waiter := by
        simpa using Finset.ext_iff.mp only other
      refine .inr ⟨closed,waiter,fun pooled => ?_,held⟩
      rcases valid.placed waiter with ⟨-,-,none,-⟩ | ⟨outside,-⟩
      · have some := (held waiter).mpr rfl
        rw [none] at some
        cases some
      · exact outside pooled
    · refine .inl ⟨by omega,fun waiter held => ?_⟩
      have holder : 0 < (Finset.univ.filter (fun waiter => (thread.waiters waiter).fd = some fd)).card :=
        Finset.card_pos.mpr ⟨waiter,Finset.mem_filter.mpr ⟨Finset.mem_univ _,held⟩⟩
      omega

def recycled (thread : WorkThread size) (waiter : Fin size) (fd timestamp : Nat) : WorkThread size :=
  {thread.set waiter ⟨true,none,none,timestamp⟩ with
    pool := thread.pool ++ [waiter]
    timeouts := thread.timeouts.remove waiter
    epoll := thread.epoll.filter (fun entry => entry.1 ≠ fd)
    closes := thread.closes ++ [fd]}

variable {fd : Nat}

theorem Valid.recycle (valid : thread.Valid)
    (held : (thread.waiters waiter).fd = some fd) (gone : .waiter waiter ∉ thread.batch) (time : Nat) :
    (thread.recycled waiter fd time).Valid := by
  have outside : waiter ∉ thread.pool := by
    rcases valid.placed waiter with ⟨-,-,none,-⟩ | ⟨outside,-⟩
    · rw [none] at held
      cases held
    · exact outside
  have others {other : Fin size} (nodup : other ≠ waiter) :
      (thread.recycled waiter fd time).waiters other = thread.waiters other := thread.set_other nodup _
  constructor
  · show (thread.pool ++ [waiter]).Nodup
    rw [nodup_append_comm,singleton_append,nodup_cons]
    exact ⟨outside,valid.nodup⟩
  · intro other
    by_cases same : other = waiter
    · subst same
      exact .inl (by simp [recycled,set])
    · exact (valid.placed other).of_same (others same) (by simp [recycled,same]) (by simp [recycled,same])
  · rintro ⟨number,other⟩ entry
    obtain ⟨entry,nodup⟩ := mem_filter.mp entry
    have registered := valid.epoll _ entry
    have same : other ≠ waiter := by
      rintro rfl
      rw [held,some.injEq] at registered
      simp [registered] at nodup
    rw [others same]
    exact registered
  · intro number
    have moved := holders_set thread waiter ⟨true,none,none,time⟩ number
    have balance := valid.balance number
    show (thread.closes ++ [fd]).count number + (thread.set waiter ⟨true,none,none,time⟩).holders number =
      if number < thread.accepted then 1 else 0
    rw [held] at moved
    by_cases same : fd = number
    · subst same
      simp at moved ⊢
      omega
    · simp [same] at moved ⊢
      omega
  · intro other mem pooled
    rcases mem_append.mp pooled with pooled | pooled
    · exact valid.batch other mem pooled
    · rw [mem_singleton.mp pooled] at mem
      exact gone mem
  · exact valid.once

theorem Valid.retain (valid : thread.Valid)
    (held : (thread.waiters waiter).fd = some fd) (value : Waiter) (holds : value.fd = some fd)
    (place : value.inPool = (thread.waiters waiter).inPool) (timeouts : Queue (Fin size))
    (queued : ∀ other, other ∈ timeouts ↔ other ∈ thread.timeouts) (epoll : List (Nat × Fin size))
    (registered : ∀ entry ∈ epoll, entry ∈ thread.epoll ∨ entry = (fd,waiter)) :
    {thread.set waiter value with timeouts := timeouts, epoll := epoll}.Valid := by
  constructor
  · exact valid.nodup
  · intro other
    by_cases same : other = waiter
    · subst same
      rcases valid.placed other with ⟨-,-,none,-⟩ | ⟨outside,out,-,there⟩
      · rw [none] at held
        cases held
      · refine .inr ⟨outside,?_,?_,(queued other).mpr there⟩
        · rw [set_self,place,out]
        · rw [set_self,holds]
          exact some_ne_none _
    · exact (valid.placed other).of_same (thread.set_other same _) Iff.rfl (queued other)
  · intro entry mem
    by_cases same : entry.2 = waiter
    · rw [same,set_self,holds]
      rcases registered entry mem with old | rfl
      · have there := valid.epoll entry old
        rw [same,held] at there
        exact there
      · rfl
    · rw [set_other _ same]
      rcases registered entry mem with old | rfl
      · exact valid.epoll entry old
      · exact absurd rfl same
  · intro number
    have moved := holders_set thread waiter value number
    rw [held,holds] at moved
    have balance := valid.balance number
    show thread.closes.count number + (thread.set waiter value).holders number = _
    rw [Nat.add_right_cancel moved]
    exact balance
  · exact valid.batch
  · exact valid.once

def admitted (thread : WorkThread size) (waiter : Fin size) (rest : List (Fin size)) : WorkThread size :=
  {thread.set waiter ⟨false,some thread.accepted,some epollIn,thread.currentTime⟩ with
    pool := rest
    timeouts := thread.timeouts.push waiter
    epoll := thread.epoll ++ [(thread.accepted,waiter)]
    accepted := thread.accepted + 1}

section
variable (valid : thread.Valid)
include valid

theorem Valid.accepted {rest : List (Fin size)}
    (pool : thread.pool = waiter::rest) : (thread.admitted waiter rest).Valid := by
  have nodup := valid.nodup
  rw [pool,nodup_cons] at nodup
  have none : (thread.waiters waiter).fd = none := by
    rcases valid.placed waiter with ⟨-,-,none,-⟩ | ⟨outside,-⟩
    · exact none
    · exact absurd (by simp [pool]) outside
  have others {other : Fin size} (ne : other ≠ waiter) :
      (thread.admitted waiter rest).waiters other = thread.waiters other := thread.set_other ne _
  constructor
  · exact nodup.2
  · intro other
    by_cases same : other = waiter
    · subst same
      exact .inr (by simp [admitted,set,nodup.1])
    · exact (valid.placed other).of_same (others same) (by simp [admitted,pool,same])
        (by simp [admitted,same])
  · intro entry mem
    rcases mem_append.mp mem with old | new
    · have registered := valid.epoll entry old
      rw [others (fun same => by rw [same,none] at registered; cases registered)]
      exact registered
    · rw [mem_singleton.mp new]
      exact congrArg Waiter.fd (thread.set_self waiter _)
  · intro number
    have moved := holders_set thread waiter ⟨false,some thread.accepted,some epollIn,
      thread.currentTime⟩ number
    have balance := valid.balance number
    show thread.closes.count number + (thread.set waiter _).holders number = if number <
      thread.accepted + 1 then 1 else 0
    rw [none] at moved
    by_cases same : thread.accepted = number
    · subst same
      simp at moved balance ⊢
      omega
    · simp [same] at moved
      rw [moved,balance]
      split_ifs <;> omega
  · intro other mem pooled
    exact valid.batch other mem (by rw [pool]; exact mem_cons_of_mem _ pooled)
  · exact valid.once

theorem Valid.refuse :
    ({thread with accepted := thread.accepted + 1}.closeFd thread.accepted).Valid := by
  have unheld : thread.closes.count thread.accepted + thread.holders thread.accepted = 0 := by
    rw [valid.balance,if_neg (Nat.lt_irrefl _)]
  constructor
  · exact valid.nodup
  · intro other
    exact (valid.placed other).of_same rfl Iff.rfl Iff.rfl
  · intro entry mem
    exact valid.epoll entry (mem_filter.mp mem).1
  · intro number
    have balance := valid.balance number
    show (thread.closes ++ [thread.accepted]).count number + thread.holders number =
      if number < thread.accepted + 1 then 1 else 0
    by_cases same : thread.accepted = number
    · subst same
      simp
      omega
    · simp [same]
      split_ifs at balance ⊢ <;> omega
  · exact valid.batch
  · exact valid.once

theorem Valid.batch_sublist {rest : List (Epollable size)}
    (fewer : rest.Sublist thread.batch) : {thread with batch := rest}.Valid :=
  ⟨valid.nodup,fun waiter => (valid.placed waiter).of_same rfl Iff.rfl Iff.rfl,valid.epoll,valid.balance,
    fun waiter mem => valid.batch waiter (fewer.subset mem),valid.once.sublist fewer⟩

theorem Valid.busy (outside : waiter ∉ thread.pool) :
    (thread.waiters waiter).inPool = false ∧ ∃ fd, (thread.waiters waiter).fd = some fd := by
  rcases valid.placed waiter with ⟨pooled,-⟩ | ⟨-,out,some,-⟩
  · exact absurd pooled outside
  · exact ⟨out,ne_none_iff_exists'.mp some⟩

end

theorem updateWaiter_eq (thread : WorkThread size) (waiter : Fin size) : thread.updateWaiter waiter =
    {thread.set waiter {thread.waiters waiter with timestamp := thread.currentTime} with
      timeouts := (thread.timeouts.remove waiter).push waiter} := by
  simp [updateWaiter,removeTimeout,pushTimeout,set]

section
variable {thread : WorkThread size} {waiter : Fin size} {fd : Nat}

theorem requeued (there : waiter ∈ thread.timeouts) (other : Fin size) :
    other ∈ (thread.timeouts.remove waiter).push waiter ↔ other ∈ thread.timeouts := by
  rw [Queue.mem_push,Queue.mem_remove]
  constructor
  · rintro (⟨mem,-⟩ | rfl)
    · exact mem
    · exact there
  · intro mem
    by_cases same : other = waiter
    · exact .inr same
    · exact .inl ⟨mem,same⟩

theorem Valid.there (valid : thread.Valid) (outside : waiter ∉ thread.pool) : waiter ∈ thread.timeouts := by
  rcases valid.placed waiter with ⟨pooled,-⟩ | ⟨-,-,-,there⟩
  · exact absurd pooled outside
  · exact there

theorem Valid.updateWaiter (valid : thread.Valid) (outside : waiter ∉ thread.pool) :
    (thread.updateWaiter waiter).Valid := by
  obtain ⟨-,fd,held⟩ := valid.busy outside
  rw [updateWaiter_eq]
  exact valid.retain held {thread.waiters waiter with timestamp := thread.currentTime} held rfl _
    (requeued (valid.there outside)) _ (fun _ mem => .inl mem)

variable {ok : Bool}

theorem Valid.setEvents (valid : thread.Valid) (outside : waiter ∉ thread.pool) {events : Nat}
    {later : WorkThread size} (set : thread.setEvents waiter events ok = some later) : later.Valid := by
  obtain ⟨-,fd,held⟩ := valid.busy outside
  rw [WorkThread.setEvents,held] at set
  dsimp only at set
  split_ifs at set with same failed
  · obtain rfl := some.inj set
    exact valid
  · split at set <;> obtain rfl := some.inj set
    · exact valid.retain held {thread.waiters waiter with epollEvents := some events} held rfl _
        (fun _ => Iff.rfl)
        (thread.epoll ++ [(fd,waiter)]) (fun entry mem => by simpa using mem)
    · exact valid.retain held {thread.waiters waiter with epollEvents := some events} held rfl _
        (fun _ => Iff.rfl)
        thread.epoll (fun entry mem => .inl mem)

theorem delWaiter_eq (out : (thread.waiters waiter).inPool = false)
    (held : (thread.waiters waiter).fd = some fd) :
    thread.delWaiter waiter true = thread.recycled waiter fd 0 := by
  simp [delWaiter,removeWaiter,delEvents,held,removeTimeout,set,pushWaiter,out,close,closeFd,recycled]

theorem onTimeoutEvent_confirmed (out : (thread.waiters waiter).inPool = false)
    (held : (thread.waiters waiter).fd = some fd) :
    {thread with timeouts := thread.timeouts.remove waiter}.onTimeoutEvent waiter true ok =
      thread.recycled waiter fd (thread.waiters waiter).timestamp := by
  cases ok <;> simp [onTimeoutEvent,delEvents,held,set,pushWaiter,out,close,closeFd,recycled]

theorem onTimeoutEvent_denied (there : waiter ∈ thread.timeouts) :
    ∃ timeouts, (∀ other, other ∈ timeouts ↔ other ∈ thread.timeouts) ∧
      {thread with timeouts := thread.timeouts.remove waiter}.onTimeoutEvent waiter false ok =
        {thread.set waiter {thread.waiters waiter with timestamp := thread.currentTime} with
          timeouts := timeouts} := by
  refine ⟨_,fun other => ?_,by rw [onTimeoutEvent,updateWaiter_eq]; rfl⟩
  rw [← requeued there other]
  simp

theorem Valid.checkTimeout (valid : thread.Valid) (idle : thread.batch = []) (answers : List (Bool × Bool)) :
    (thread.checkTimeout answers).Valid ∧ (thread.checkTimeout answers).batch = [] := by
  induction answers generalizing thread with
  | nil => exact ⟨valid,idle⟩
  | cons answer answers ih =>
    obtain ⟨confirmed,ok⟩ := answer
    rw [WorkThread.checkTimeout]
    split
    · exact ⟨valid,idle⟩
    · rename_i waiter first
      split_ifs
      · exact ⟨valid,idle⟩
      · have there := Queue.mem_of_front first
        have outside : waiter ∉ thread.pool := by
          rcases valid.placed waiter with ⟨-,-,-,-,absent⟩ | ⟨outside,-⟩
          · exact absurd there absent
          · exact outside
        obtain ⟨out,fd,held⟩ := valid.busy outside
        cases confirmed with
        | true =>
          rw [onTimeoutEvent_confirmed out held]
          exact ih (valid.recycle held (by simp [idle]) _) idle
        | false =>
          obtain ⟨timeouts,queued,shape⟩ := onTimeoutEvent_denied there
          rw [shape]
          exact ih (valid.retain held {thread.waiters waiter with timestamp := thread.currentTime}
            held rfl _ queued _
            (fun _ mem => .inl mem)) idle

theorem Valid.waiterEvent (valid : thread.Valid) (outside : waiter ∉ thread.pool)
    (gone : .waiter waiter ∉ thread.batch)
    {answer : EpollEvent} (deletes : answer.Ends → ok = true) :
    (thread.waiterEvent waiter answer ok).Valid := by
  have updated := valid.updateWaiter outside
  have same : (thread.updateWaiter waiter).pool = thread.pool ∧ (thread.updateWaiter waiter).batch =
      thread.batch := by
    exact ⟨rfl,rfl⟩
  obtain ⟨out,fd,held⟩ := updated.busy outside
  have ended (yes : ok = true) : ((thread.updateWaiter waiter).delWaiter waiter ok).Valid := by
    rw [yes,delWaiter_eq out held]
    exact updated.recycle held gone 0
  rw [WorkThread.waiterEvent]
  split
  · rename_i handled proc
    cases answer with
    | none _ | read | write | readWrite => exact updated.setEvents outside proc
    | close | remove | destroy | release =>
      obtain rfl := some.inj proc
      exact ended (deletes trivial)
  · exact updated.batch_sublist (nil_sublist _)

theorem acceptOne_first {rest : List (Fin size)} (pool : thread.pool = waiter::rest) (valid : thread.Valid) :
    thread.acceptOne true = thread.admitted waiter rest := by
  rcases valid.placed waiter with ⟨-,-,-,unset,-⟩ | ⟨outside,-⟩
  · simp [acceptOne,addWaiter,popWaiter,pool,watchWaiter,WorkThread.setEvents,set,unset,pushTimeout,admitted]
  · exact absurd (by simp [pool]) outside

theorem Valid.acceptOne (valid : thread.Valid) (registers : thread.pool ≠ [] → ok = true) :
    (thread.acceptOne ok).Valid := by
  cases pool : thread.pool with
  | nil =>
    have refused : thread.acceptOne ok =
        {thread with accepted := thread.accepted + 1}.closeFd thread.accepted := by
      simp [WorkThread.acceptOne,addWaiter,popWaiter,pool]
    rw [refused]
    exact valid.refuse
  | cons waiter rest =>
    rw [registers (by simp [pool]),acceptOne_first pool valid]
    exact valid.accepted pool

end

theorem Valid.step (thread : WorkThread size) (act : Action size) (valid : thread.Valid)
    (registers : thread.Registers act) : (thread.step act).1.Valid := by
  cases act with
  | checkTimeout answers =>
    rw [WorkThread.step]
    split_ifs with idle
    · exact (valid.checkTimeout idle answers).1
    · exact valid
  | wait currentTime ready =>
    rw [WorkThread.step]
    split_ifs with fits
    · obtain ⟨-,once,registered⟩ := fits
      refine ⟨valid.nodup,fun waiter => (valid.placed waiter).of_same rfl Iff.rfl Iff.rfl,
        valid.epoll,valid.balance,
        fun waiter mem pooled => ?_,once⟩
      obtain ⟨entry,there,rfl⟩ := registered waiter mem
      have held := valid.epoll entry there
      rcases valid.placed entry.2 with ⟨-,-,none,-⟩ | ⟨outside,-⟩
      · rw [none] at held
        cases held
      · exact outside pooled
    · exact valid
  | acceptEvent fd ok =>
    rw [WorkThread.step]
    split
    · rename_i index rest batch
      have rested : {thread with batch := rest}.Valid :=
        valid.batch_sublist (by rw [batch]; exact sublist_cons_self _ _)
      split_ifs with came
      · exact rested.acceptOne (registers came)
      · exact rested
    · exact valid
  | event answer ok =>
    rw [WorkThread.step]
    split
    · rename_i waiter rest batch
      have rested : {thread with batch := rest}.Valid :=
        valid.batch_sublist (by rw [batch]; exact sublist_cons_self _ _)
      have once := valid.once
      rw [batch,nodup_cons] at once
      exact rested.waiterEvent (valid.batch waiter (by simp [batch])) once.1 registers
    · exact valid

/-- In every run in which no `ADD` of a new connection and no `DEL` of an ended one fails, every waiter
has one place and every descriptor one owner. -/
theorem owned_of_registers (size timeoutSeconds currentTime : Nat) (actions : List (Action size))
    (registers : Run.Meets Registers step (start size timeoutSeconds currentTime) actions) :
    (final step (start size timeoutSeconds currentTime) actions).Owned :=
  (invariant Valid Valid.step _ actions (Valid.start size timeoutSeconds currentTime) registers).owned

theorem owned_of_registers_one : Run.Meets Registers step (start 1 10 0)
        [.wait 1 [.listener 0],.acceptEvent true true,.wait 2 [.waiter 0],.event .close true] ∧
      (final step (start 1 10 0)
        [.wait 1 [.listener 0],.acceptEvent true true,.wait 2 [.waiter 0],.event .close true]).Owned :=
  ⟨by decide,owned_of_registers 1 10 0 _ (by decide)⟩

theorem owned_fails : (final step (start 1 10 0) [.wait 1 [.listener 0],
    .acceptEvent true false]).closes = [0,0] ∧
      (final step (start 1 10 0) [.wait 1 [.listener 0],.acceptEvent true true,.wait 2 [.waiter 0],
        .event .close false]).pool = [0] ∧
      0 ∈ (final step (start 1 10 0) [.wait 1 [.listener 0],.acceptEvent true true,.wait 2 [.waiter 0],
        .event .close false]).timeouts := by
  decide

end Mooon.Server.WorkThread

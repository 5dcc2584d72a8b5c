import Mooon.Queue
import Mooon.Run

/-! `CWorkThread` with its `CListener`, `CWaiterPool`, `CEpoller` and `CTimeoutManager`, for a
pool of at least one waiter. Every descriptor that `accept` returns has a number of its own,
and every `close` of one is kept. The answers of `epoll_ctl` and of the packet handlers are
part of the actions. With a pool no waiter is handed over to another thread. -/
namespace Mooon.Server

def epollIn : Nat := 1
def epollOut : Nat := 4

structure Waiter where
  inPool : Bool
  fd : Option Nat
  epollEvents : Option Nat
  timestamp : Nat

inductive Epollable (size : Nat) where
  | listener (index : Nat)
  | waiter (waiter : Fin size)
deriving DecidableEq

structure WorkThread (size : Nat) where
  waiters : Fin size → Waiter
  pool : List (Fin size)
  timeouts : Queue (Fin size)
  epoll : List (Nat × Fin size)
  batch : List (Epollable size)
  currentTime : Nat
  timeoutSeconds : Nat
  accepted : Nat
  closes : List Nat

inductive EpollEvent where
  | none (epollEvents : Nat)
  | read
  | write
  | readWrite
  | close
  | remove
  | destroy
  | release

def EpollEvent.Ends : EpollEvent → Prop
  | .none _ | .read | .write | .readWrite => False
  | .close | .remove | .destroy | .release => True

instance (answer : EpollEvent) : Decidable answer.Ends := by
  cases answer <;> unfold EpollEvent.Ends <;> infer_instance

namespace WorkThread
variable {size : Nat}

def start (size timeoutSeconds currentTime : Nat) : WorkThread size :=
  ⟨fun _ => ⟨true,none,none,0⟩,List.finRange size,.empty,[],[],currentTime,timeoutSeconds,0,[]⟩

section
variable (thread : WorkThread size) (waiter : Fin size) (ok : Bool)

def set (value : Waiter) : WorkThread size :=
  {thread with waiters := Function.update thread.waiters waiter value}

def closeFd (fd : Nat) : WorkThread size :=
  {thread with closes := thread.closes ++ [fd], epoll := thread.epoll.filter (fun entry => entry.1 ≠ fd)}

/-- `ok` is the answer of `epoll_ctl`, if it is called; no state means an exception. -/
def setEvents (events : Nat) (ok : Bool) : Option (WorkThread size) :=
  match (thread.waiters waiter).fd with
  | none => some thread
  | some fd =>
    if (thread.waiters waiter).epollEvents = some events then some thread
    else if ok = false then none
    else
      let set := thread.set waiter {thread.waiters waiter with epollEvents := some events}
      match (thread.waiters waiter).epollEvents with
      | none => some {set with epoll := thread.epoll ++ [(fd,waiter)]}
      | some _ => some set

def delEvents : Option (WorkThread size) :=
  match (thread.waiters waiter).fd with
  | none => some thread
  | some fd =>
    if ok = false then none
    else
      some {thread.set waiter {thread.waiters waiter with epollEvents := none} with
        epoll := thread.epoll.filter (fun entry => entry.1 ≠ fd)}

def pushTimeout : WorkThread size :=
  {thread.set waiter {thread.waiters waiter with timestamp := thread.currentTime} with
    timeouts := thread.timeouts.push waiter}

def removeTimeout : WorkThread size :=
  {thread.set waiter {thread.waiters waiter with timestamp := 0} with
    timeouts := thread.timeouts.remove waiter}

def updateWaiter : WorkThread size :=
  (thread.removeTimeout waiter).pushTimeout waiter

def close : WorkThread size :=
  match (thread.waiters waiter).fd with
  | none => thread
  | some fd => (thread.closeFd fd).set waiter {thread.waiters waiter with fd := none, epollEvents := none}

def pushWaiter : WorkThread size :=
  if (thread.waiters waiter).inPool then thread
  else
    let marked := thread.set waiter {thread.waiters waiter with inPool := true}
    {marked.close waiter with pool := thread.pool ++ [waiter]}

def popWaiter : Option (WorkThread size × Fin size) :=
  match thread.pool with
  | [] => none
  | waiter::rest => some ({thread.set waiter
    {thread.waiters waiter with inPool := false} with pool := rest},waiter)

def watchWaiter (epollEvents : Nat) (ok : Bool) : WorkThread size × Bool :=
  match thread.setEvents waiter epollEvents ok with
  | some watched => (watched.pushTimeout waiter,true)
  | none => (thread.pushWaiter waiter,false)

def addWaiter (fd : Nat) (ok : Bool) : WorkThread size × Bool :=
  match thread.popWaiter with
  | none => (thread,false)
  | some (popped,waiter) =>
    (popped.set waiter {popped.waiters waiter with fd := some fd}).watchWaiter waiter epollIn ok

/-- A `DEL` that fails leaves the waiter in the timeout queue. -/
def removeWaiter : WorkThread size :=
  match thread.delEvents waiter ok with
  | some deleted => deleted.removeTimeout waiter
  | none => thread

def delWaiter : WorkThread size :=
  (thread.removeWaiter waiter ok).pushWaiter waiter

def acceptOne : WorkThread size :=
  let fd := thread.accepted
  match {thread with accepted := thread.accepted + 1}.addWaiter fd ok with
  | (added,true) => added
  | (refused,false) => refused.closeFd fd

def epollEventProc (answer : EpollEvent) (ok : Bool) :
    Option (WorkThread size) :=
  match answer with
  | .none epollEvents => thread.setEvents waiter epollEvents ok
  | .read => thread.setEvents waiter epollIn ok
  | .write => thread.setEvents waiter epollOut ok
  | .readWrite => thread.setEvents waiter (epollIn+epollOut) ok
  | .close | .remove | .destroy => some (thread.delWaiter waiter ok)
  -- with a pool a released waiter is deleted, not handed over
  | .release => some (thread.delWaiter waiter ok)

def waiterEvent (answer : EpollEvent) (ok : Bool) : WorkThread size :=
  match (thread.updateWaiter waiter).epollEventProc waiter answer ok with
  | some handled => handled
  -- the exception ends the loop over the batch
  | none => {thread.updateWaiter waiter with batch := []}

def isTimeout : Bool :=
  (thread.waiters waiter).timestamp + thread.timeoutSeconds < thread.currentTime

def onTimeoutEvent (confirmed ok : Bool) : WorkThread size :=
  if confirmed = false then thread.updateWaiter waiter
  else
    match thread.delEvents waiter ok with
    | some deleted => deleted.pushWaiter waiter
    | none => thread.pushWaiter waiter

def checkTimeout (thread : WorkThread size) : List (Bool × Bool) → WorkThread size
  | [] => thread
  | (confirmed,ok)::answers =>
    match thread.timeouts.front with
    | none => thread
    | some waiter =>
      if thread.isTimeout waiter = false then thread
      else
        ({thread with timeouts := thread.timeouts.remove waiter}.onTimeoutEvent waiter confirmed
          ok).checkTimeout answers

inductive Action (size : Nat) where
  | checkTimeout (answers : List (Bool × Bool))
  | wait (currentTime : Nat) (ready : List (Epollable size))
  | acceptEvent (fd : Bool) (ok : Bool)
  | event (answer : EpollEvent) (ok : Bool)

def Ready (ready : List (Epollable size)) : Prop :=
  ready.Nodup ∧ ∀ waiter, .waiter waiter ∈ ready → ∃ entry ∈ thread.epoll, entry.2 = waiter

instance (thread : WorkThread size) (ready : List (Epollable size)) : Decidable (thread.Ready ready) :=
  inferInstanceAs (Decidable (_ ∧ _))

/-- One step of `run`; an action that does not fit the rest of the batch does nothing. -/
def step : Action size → WorkThread size × Unit
  | .checkTimeout answers => (if thread.batch = [] then thread.checkTimeout answers else thread,())
  | .wait currentTime ready =>
    (if thread.batch = [] ∧ thread.Ready ready then {thread with currentTime := currentTime, batch := ready}
    else thread,())
  | .acceptEvent fd ok =>
    match thread.batch with
    | .listener _::rest =>
      let thread := {thread with batch := rest}
      (if fd = true then thread.acceptOne ok else thread,())
    | _ => (thread,())
  | .event answer ok =>
    match thread.batch with
    | .waiter waiter::rest => ({thread with batch := rest}.waiterEvent waiter answer ok,())
    | _ => (thread,())

/-- Every waiter is in the pool or watched, and every descriptor is held by one waiter or closed once. -/
structure Owned (thread : WorkThread size) : Prop where
  waiters : ∀ waiter, (waiter ∈ thread.pool ∧ waiter ∉ thread.timeouts ∧ ∀ fd, (fd,waiter) ∉ thread.epoll) ∨
    (waiter ∉ thread.pool ∧ waiter ∈ thread.timeouts)
  descriptors : ∀ fd < thread.accepted,
    (thread.closes.count fd = 1 ∧ ∀ waiter, (thread.waiters waiter).fd ≠ some fd) ∨
    (thread.closes.count fd = 0 ∧ ∃ waiter ∉ thread.pool, ∀ other, (thread.waiters other).fd =
      some fd ↔ other = waiter)

/-- No `ADD` for a new connection fails, and no `DEL` for one that its handler ends. -/
def Registers : Action size → Prop
  | .acceptEvent fd ok => fd = true → thread.pool ≠ [] → ok = true
  | .event answer ok => answer.Ends → ok = true
  | _ => True

end

instance (thread : WorkThread size) (action : Action size) : Decidable (thread.Registers action) := by
  cases action <;> unfold Registers <;> infer_instance

end WorkThread

end Mooon.Server

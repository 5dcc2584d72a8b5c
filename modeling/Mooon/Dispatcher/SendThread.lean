import Mooon.Dispatcher.Sender
import Mooon.Queue

/-! `CSendThread`: the senders it was given, its queues, its epoll set and the batch of events
that it walks through. A sender is the number of its `add_sender` call. What the environment
decides is in the actions: the outcome of each connect, the answer to each event and timeout,
and whether `close_sender` gives back the last reference. Failures of `epoll_ctl` inside a
`try` are failed connects and closed connections here; outside they end the thread. -/
namespace Mooon.Dispatcher
open List Function

inductive Epollable where
  | sensor
  | sender (sender : Nat)
  | sendQueue (sender : Nat)
deriving DecidableEq

inductive ConnectResult where
  | established
  | inProgress
  | failed

/-- How `CSender::handle_epoll_event` goes; the event of a connection that fails may be the one
that first finds it writable. -/
inductive Answer where
  | received
  | sentAll
  | sentPart
  | failed (writable : Bool)
  | released
deriving DecidableEq

/-- A sender as the thread sees it. The send queue of a sender lives as long as the sender. -/
structure SenderState where
  maxReconnectTimes : Int
  reconnectTimes : Nat
  connected : Bool
  establishing : Bool
  registered : Bool
  queueRegistered : Bool
  timestamp : Nat
  removals : Nat
  destroyed : Bool
  calledAfter : Bool

structure SendThread where
  senders : Nat → SenderState
  added : Nat
  unconnectedQueue : List Nat
  reconnectQueue : List Nat
  timeouts : Queue Nat
  batch : List Epollable
  currentTime : Nat
  lastConnectTime : Nat
  timeoutSeconds : Nat
  reconnectSeconds : Nat

def SenderState.new (maxReconnectTimes : Int) : SenderState :=
  ⟨maxReconnectTimes,0,false,false,false,false,0,0,false,false⟩

namespace SendThread

def start (timeoutSeconds reconnectSeconds : Nat) : SendThread :=
  ⟨fun _ => .new 0,0,[],[],.empty,[],0,0,timeoutSeconds,reconnectSeconds⟩

section
variable (thread : SendThread) (sender : Nat) (result : Nat → ConnectResult)

def update (change : SenderState → SenderState) : SendThread :=
  {thread with senders := Function.update thread.senders sender (change (thread.senders sender))}

def addSender (maxReconnectTimes : Int) : SendThread :=
  {thread.update thread.added (fun _ => .new maxReconnectTimes) with
    added := thread.added + 1
    unconnectedQueue := thread.unconnectedQueue ++ [thread.added]}

/-- `set_events` and `del_events` do nothing without a descriptor. -/
def setEvents : SendThread :=
  thread.update sender (fun state => {state with registered := state.registered || state.connected})

def delEvents : SendThread :=
  thread.update sender (fun state => {state with registered := state.registered && !state.connected})

def setQueueEvents : SendThread :=
  thread.update sender (fun state => {state with queueRegistered := true})

def delQueueEvents : SendThread :=
  thread.update sender (fun state => {state with queueRegistered := false})

def pushTimeout : SendThread :=
  {thread.update sender (fun state => {state with timestamp := thread.currentTime}) with
    timeouts := thread.timeouts.push sender}

def removeTimeout : SendThread :=
  {thread.update sender (fun state => {state with timestamp := 0}) with
    timeouts := thread.timeouts.remove sender}

def close : SendThread :=
  thread.update sender (fun state =>
    {state with connected := false, establishing := false, registered := false})

def asyncConnect (result : ConnectResult) : SendThread :=
  thread.update sender (fun state => match result with
    | .failed => {state with reconnectTimes := state.reconnectTimes + 1}
    | .inProgress =>
      {state with reconnectTimes := state.reconnectTimes + 1, connected := true, establishing := true}
    | .established => {state with reconnectTimes := 0, connected := true, establishing := false})

def setConnectedState : SendThread :=
  thread.update sender (fun state =>
    if state.establishing then {state with establishing := false, reconnectTimes := 0} else state)

def senderReconnect : SendThread :=
  let closed := ((thread.close sender).delEvents sender).removeTimeout sender
  {closed with reconnectQueue := closed.reconnectQueue ++ [sender]}

def senderConnect (result : ConnectResult) : SendThread :=
  match result with
  | .failed => (thread.asyncConnect sender .failed).senderReconnect sender
  | _ => ((thread.asyncConnect sender result).setEvents sender).pushTimeout sender

/-- `close_sender` of the table; with the last reference the sender, its socket and the pipe of
its send queue are gone. -/
def closeSender (last : Bool) : SendThread :=
  thread.update sender (fun state =>
    if last then
      {state with
        removals := state.removals + 1, destroyed := true, connected := false, registered := false,
        queueRegistered := false}
    else {state with removals := state.removals + 1})

def removeSender (last : Bool) : SendThread :=
  ((thread.delEvents sender).removeTimeout sender).closeSender sender last

def givesUp : Bool :=
  -1 < (thread.senders sender).maxReconnectTimes &&
    (thread.senders sender).maxReconnectTimes ≤ (thread.senders sender).reconnectTimes

def reconnectFront (last : Nat → Bool) (thread : SendThread) : SendThread :=
  match thread.reconnectQueue with
  | [] => thread
  | sender::rest =>
    let popped := {thread with reconnectQueue := rest}
    if thread.givesUp sender then popped.removeSender sender (last sender)
    else popped.senderConnect sender (result sender)

def checkReconnectQueue (last : Nat → Bool) : SendThread :=
  if thread.currentTime < thread.lastConnectTime + thread.reconnectSeconds then thread
  else (reconnectFront result last)^[thread.reconnectQueue.length]
    {thread with lastConnectTime := thread.currentTime}

def connectFront (thread : SendThread) : SendThread :=
  match thread.unconnectedQueue with
  | [] => thread
  | sender::rest => {thread with unconnectedQueue := rest}.senderConnect sender (result sender)

def checkUnconnectedQueue : SendThread :=
  (connectFront result)^[thread.unconnectedQueue.length] thread

def isTimeout : Bool :=
  (thread.senders sender).timestamp + thread.timeoutSeconds < thread.currentTime

def onTimeoutEvent (confirmed : Bool) : SendThread :=
  if confirmed then thread.senderReconnect sender else (thread.removeTimeout sender).pushTimeout sender

def timeoutFront (confirmed : Nat → Bool) (thread : SendThread) : SendThread :=
  match thread.timeouts.front with
  | none => thread
  | some sender =>
    if thread.isTimeout sender then
      {thread with timeouts := thread.timeouts.remove sender}.onTimeoutEvent sender (confirmed sender)
    else thread

def checkTimeout (confirmed : Nat → Bool) : SendThread :=
  if thread.timeoutSeconds = 0 then thread else (timeoutFront confirmed)^[thread.timeouts.items.length] thread

/-- The senders of the timeout queue are at most `count` that were not looked at, and then ones that
have the current time. -/
def Scanned (count : Nat) : Prop :=
  ∃ old new, thread.timeouts.items = old ++ new ∧ old.length ≤ count ∧
    ∀ sender ∈ new, (thread.senders sender).timestamp = thread.currentTime

end

variable {sender : Nat} {thread : SendThread}

theorem not_late
    (current : (thread.senders sender).timestamp = thread.currentTime) : thread.isTimeout sender = false := by
  simp [isTimeout,current]

theorem Scanned.timeoutFront {count : Nat} (scanned : thread.Scanned (count + 1))
    (confirmed : Nat → Bool) (front : thread.timeouts.front = some sender)
    (late : thread.isTimeout sender = true) : (timeoutFront confirmed thread).Scanned count := by
  obtain ⟨old,new,items,bound,current⟩ := scanned
  have head : (old ++ new).head? = some sender := items ▸ front
  cases old with
  | nil =>
    rw [not_late (current sender (mem_of_head? head))] at late
    cases late
  | cons first rest =>
    obtain rfl : first = sender := Option.some.inj head
    have unique := thread.timeouts.unique
    rw [items,cons_append,nodup_cons] at unique
    have popped : (thread.timeouts.remove first).items = rest ++ new := by simp [Queue.remove,items]
    have absent : first ∉ thread.timeouts.remove first := by simp
    have others {other : Nat} (member : other ∈ new) : other ≠ first := by
      rintro rfl
      exact unique.1 (mem_append_right rest member)
    have bound : rest.length ≤ count := Nat.le_of_succ_le_succ bound
    simp only [SendThread.timeoutFront,front,late,if_true,onTimeoutEvent]
    split
    · refine ⟨rest,new,?_,bound,fun other member => ?_⟩
      · show ((thread.timeouts.remove first).remove first).items = rest ++ new
        rw [Queue.remove_of_not_mem absent,popped]
      · simpa [senderReconnect,removeTimeout,delEvents,close,update,others member] using current other member
    · refine ⟨rest,new ++ [first],?_,bound,fun other member => ?_⟩
      · show (((thread.timeouts.remove first).remove first).push first).items = rest ++ (new ++ [first])
        rw [Queue.remove_of_not_mem absent,Queue.items_push absent,popped,append_assoc]
      · rcases List.mem_append.mp member with member | member
        · simpa [pushTimeout,removeTimeout,update,others member] using current other member
        · rw [List.mem_singleton.mp member]
          simp [pushTimeout,removeTimeout,update]

theorem timeoutFront_stops (front : thread.timeouts.front = some sender)
    (early : thread.isTimeout sender = false) (confirmed : Nat → Bool) :
    timeoutFront confirmed thread = thread := by
  simp [timeoutFront,front,early]

/-- As many rounds as senders are queued are enough: behind them the loop would stop. -/
theorem checkTimeout_ends (thread : SendThread) (confirmed : Nat → Bool) :
    let after := (timeoutFront confirmed)^[thread.timeouts.items.length] thread
    after.timeouts.front.all (!after.isTimeout ·) = true := by
  have scanned : thread.Scanned thread.timeouts.items.length := ⟨_,[],(append_nil _).symm,le_rfl,nofun⟩
  generalize thread.timeouts.items.length = count at scanned ⊢
  induction count generalizing thread with
  | zero =>
    obtain ⟨old,new,items,bound,current⟩ := scanned
    obtain rfl : old = [] := List.length_eq_zero_iff.mp (Nat.le_zero.mp bound)
    rw [nil_append] at items
    cases first : thread.timeouts.front with
    | none => simp [first]
    | some sender => simp [first,not_late (current sender (items ▸ mem_of_head? first))]
  | succ count ih =>
    cases first : thread.timeouts.front with
    | none =>
      have empty : timeoutFront confirmed thread = thread := by simp [timeoutFront,first]
      simp [iterate_fixed empty,first]
    | some candidate =>
      cases late : thread.isTimeout candidate with
      | false => simp [iterate_fixed (timeoutFront_stops first late confirmed),first,late]
      | true => exact ih _ (scanned.timeoutFront confirmed first late)

section
variable (thread : SendThread) (sender : Nat) (answer : Answer) (last : Nat → Bool)

def handleSenderEvent : SendThread × EpollEvent :=
  let removed := thread.removeTimeout sender
  match answer with
  | .received => (removed.pushTimeout sender,.epollNone)
  | .sentAll => (((removed.setConnectedState sender).setQueueEvents sender).pushTimeout sender,.epollRead)
  | .sentPart => ((removed.setConnectedState sender).pushTimeout sender,.epollReadWrite)
  | .failed writable => (if writable then removed.setConnectedState sender else removed,.epollClose)
  | .released => (removed,.epollDestroy)

def epollEventProc (last : Bool) : EpollEvent → SendThread
  | .epollNone => thread
  | .epollRead | .epollReadWrite => thread.setEvents sender
  | .epollClose => thread.senderReconnect sender
  | .epollDestroy => thread.removeSender sender last
  | .epollRemove => thread.delEvents sender

/-- A call on a sender that is gone has no meaning; it is only noted. -/
def senderEvent (last : Bool) : SendThread :=
  if (thread.senders sender).destroyed then
    thread.update sender (fun state => {state with calledAfter := true})
  else
    let (handled,event) := thread.handleSenderEvent sender answer
    handled.epollEventProc sender last event

def queueEvent : SendThread :=
  if (thread.senders sender).destroyed then
    thread.update sender (fun state => {state with calledAfter := true})
  else (thread.setEvents sender).delQueueEvents sender

/-- One iteration of `run` is `setTime`, the three checks, `wait` and an event for each member of
the batch. The check actions do nothing while a batch is being walked through. -/
inductive Action where
  | addSender (maxReconnectTimes : Int)
  | setReconnectTimes (sender : Nat) (maxReconnectTimes : Int)
  | setTime (currentTime : Nat)
  | checkReconnectQueue (result : Nat → ConnectResult) (last : Nat → Bool)
  | checkUnconnectedQueue (result : Nat → ConnectResult)
  | checkTimeout (confirmed : Nat → Bool)
  | wait (ready : List Epollable)
  | event (answer : Answer) (last : Bool)

def Ready (ready : List Epollable) : Prop :=
  ready.Nodup ∧ ∀ epollable ∈ ready, match epollable with
    | .sensor => True
    | .sender sender => (thread.senders sender).registered = true
    | .sendQueue sender => (thread.senders sender).queueRegistered = true

instance (thread : SendThread) (ready : List Epollable) : Decidable (thread.Ready ready) :=
  have (epollable : Epollable) : Decidable (match epollable with
      | .sensor => True
      | .sender sender => (thread.senders sender).registered = true
      | .sendQueue sender => (thread.senders sender).queueRegistered = true) := by
    cases epollable <;> dsimp only <;> infer_instance
  inferInstanceAs (Decidable (_ ∧ _))

def handleEvent (last : Bool) : SendThread :=
  match thread.batch with
  | [] => thread
  | .sensor::rest => {thread with batch := rest}
  | .sender sender::rest => {thread with batch := rest}.senderEvent sender answer last
  | .sendQueue sender::rest => {thread with batch := rest}.queueEvent sender

def between (later : SendThread) : SendThread := if thread.batch = [] then later else thread

def step : Action → SendThread × Unit
  | .addSender maxReconnectTimes => (thread.addSender maxReconnectTimes,())
  | .setReconnectTimes sender maxReconnectTimes =>
    (thread.update sender (fun state => {state with maxReconnectTimes := maxReconnectTimes}),())
  | .setTime currentTime => (thread.between {thread with currentTime := currentTime},())
  | .checkReconnectQueue result last => (thread.between (thread.checkReconnectQueue result last),())
  | .checkUnconnectedQueue result => (thread.between (thread.checkUnconnectedQueue result),())
  | .checkTimeout confirmed => (thread.between (thread.checkTimeout confirmed),())
  | .wait ready => (thread.between (if thread.Ready ready then {thread with batch := ready} else thread),())
  | .event answer last => (thread.handleEvent answer last,())

def clearUnconnectedFront (thread : SendThread) : SendThread :=
  match thread.unconnectedQueue with
  | [] => thread
  | sender::rest => {thread with unconnectedQueue := rest}.removeSender sender (last sender)

def clearReconnectFront (thread : SendThread) : SendThread :=
  match thread.reconnectQueue with
  | [] => thread
  | sender::rest => {thread with reconnectQueue := rest}.removeSender sender (last sender)

def clearTimeoutFront (thread : SendThread) : SendThread :=
  match thread.timeouts.front with
  | none => thread
  | some sender => {thread with timeouts := thread.timeouts.remove sender}.removeSender sender (last sender)

def afterRun : SendThread :=
  let thread := (clearUnconnectedFront last)^[thread.unconnectedQueue.length] thread
  let thread := (clearReconnectFront last)^[thread.reconnectQueue.length] thread
  (clearTimeoutFront last)^[thread.timeouts.items.length] thread

end

end SendThread

end Mooon.Dispatcher

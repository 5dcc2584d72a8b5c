import Mooon.Run
import Mathlib.Data.List.Infix

/-! One `CSender` of the dispatcher with buffer messages: its send queue, the message it is
sending, and the connections it has had. The thread's part of a connection's life, closing it
and connecting again, is in the actions. Next to the members of the class the state keeps what
was pushed, what each connection carried, and how each message ended. -/
namespace Mooon.Dispatcher

abbrev Bytes := List UInt8

inductive SendResult where
  | sent (size : Nat)
  | wouldBlock
  | error

inductive HandleResult where
  | handleError
  | handleFinish
  | handleContinue
  | handleRelease
  | handleClose

inductive Reply where
  | invalidBuffer
  | receiveError
  | closedByPeer
  | handled (result : HandleResult)

/-- An event of the socket, by the first bit that `handle_epoll_event` finds set. The list
of send outcomes ends with one that would block. -/
inductive Event where
  | epollHup
  | epollErr
  | epollIn (reply : Reply)
  | epollOut (results : List SendResult)
  | unknown

inductive EpollEvent where
  | epollNone
  | epollRead
  | epollReadWrite
  | epollClose
  | epollDestroy
  | epollRemove
deriving DecidableEq

/-- What one connection carried: the number of messages freed before it, the number of
messages that were finished on it, and its bytes. -/
structure Connection where
  first : Nat
  completed : Nat
  bytes : Bytes
deriving DecidableEq

def Connection.Whole (connection : Connection) (pushed : List Bytes) : Prop :=
  ∃ whole rest part, pushed.drop connection.first = whole ++ rest ∧ whole.length = connection.completed ∧
    connection.bytes = whole.flatten ++ part ∧
      (part = [] ∨ ∃ next later, rest = next::later ∧ part <+: next ∧ part ≠ next)

structure Sender where
  resendTimes : Int
  sendQueue : List Bytes
  currentMessage : Option Bytes
  currentOffset : Nat
  curResendTimes : Nat
  connection : Option Connection
  removed : Bool
  closed : List Connection
  pushed : List Bytes
  freed : Nat
  interruptions : Nat
  discarded : List (Nat × Nat)

namespace Sender

def start (resendTimes : Int) : Sender := ⟨resendTimes,[],none,0,0,none,false,[],[],0,0,[]⟩

section
variable (sender : Sender)

def connections : List Connection := sender.closed ++ sender.connection.toList

def needResend : Bool := sender.resendTimes < 0 || sender.curResendTimes < sender.resendTimes

def getCurrentMessage : Sender :=
  match sender.currentMessage, sender.sendQueue with
  | none, message::rest => {sender with currentMessage := some message, sendQueue := rest}
  | _, _ => sender

def freeCurrentMessage : Sender :=
  {sender with
    curResendTimes := 0
    currentMessage := none
    currentOffset := 0
    freed := sender.freed + 1
    interruptions := 0}

def finishCurrentMessage : Sender :=
  {sender.freeCurrentMessage with
    connection := sender.connection.map
      (fun connection => {connection with completed := connection.completed + 1})}

def discardCurrentMessage : Sender :=
  {sender.freeCurrentMessage with discarded := sender.discarded ++ [(sender.freed,sender.interruptions)]}

def resetCurrentMessage (finish : Bool) : Sender :=
  if sender.currentMessage = none then sender
  else if finish then sender.finishCurrentMessage
  else if sender.needResend then {sender with curResendTimes := sender.curResendTimes + 1, currentOffset := 0}
  else sender.discardCurrentMessage

def send (message : Bytes) (size : Nat) : Sender :=
  let data := (message.drop sender.currentOffset).take (max 1 size)
  {sender with
    connection := sender.connection.map
      (fun connection => {connection with bytes := connection.bytes ++ data})
    currentOffset := sender.currentOffset + data.length}

def doSendMessage (sender : Sender) (results : List SendResult) : Sender × EpollEvent :=
  let sender := sender.getCurrentMessage
  match sender.currentMessage with
  | none => (sender,.epollRead)
  | some message =>
    -- an exception of `send` ends the event like a returned `epoll_close`; no bytes at all are `EINVAL`
    if message.drop sender.currentOffset = [] then (sender,.epollClose)
    else match results with
      | [] | .wouldBlock::_ => (sender,.epollReadWrite)
      | .error::_ => (sender,.epollClose)
      | .sent size::rest =>
        let sender := sender.send message size
        if sender.currentOffset < message.length then (sender,.epollReadWrite)
        else (sender.resetCurrentMessage true).doSendMessage rest
termination_by structural results

def handleReply : Reply → EpollEvent
  | .invalidBuffer | .receiveError | .closedByPeer => .epollClose
  | .handled .handleError | .handled .handleClose => .epollClose
  | .handled .handleRelease => .epollDestroy
  | .handled .handleFinish | .handled .handleContinue => .epollNone

def interrupt : Sender :=
  if sender.currentMessage = none then sender else {sender with interruptions := sender.interruptions + 1}

def tryEvent : Event → Sender × EpollEvent
  | .epollHup | .epollErr | .unknown => (sender,.epollClose)
  | .epollIn reply => (sender,handleReply reply)
  | .epollOut results => sender.doSendMessage results

def handleEpollEvent (event : Event) : Sender × EpollEvent :=
  match sender.tryEvent event with
  | (sender,.epollClose) => (sender.interrupt.resetCurrentMessage false,.epollClose)
  | answer => answer

/-- `sender_reconnect` of the thread closes the connection; the sender waits for the next one. -/
def senderReconnect : Sender :=
  {sender with connection := none, closed := sender.closed ++ sender.connection.toList}

def onTimeoutEvent (confirmed : Bool) : Sender :=
  if confirmed then sender.interrupt.senderReconnect else sender

def onEvent (event : Event) : Sender :=
  match sender.handleEpollEvent event with
  | (sender,.epollClose) => sender.senderReconnect
  | (sender,.epollDestroy) => {sender with removed := true}
  | (sender,_) => sender

inductive Action where
  | push (message : Bytes)
  | connect
  | event (event : Event)
  | timeout (confirmed : Bool)

def watched : Bool := sender.connection.isSome && !sender.removed

def step : Action → Sender × Unit
  | .push message =>
    ({sender with sendQueue := sender.sendQueue ++ [message], pushed := sender.pushed ++ [message]},())
  -- an attempt that fails at once leaves the sender as it is
  | .connect =>
    (if sender.connection = none ∧
      sender.removed = false then {sender with connection := some ⟨sender.freed,0,[]⟩}
      else sender,())
  | .event event => (if sender.watched then sender.onEvent event else sender,())
  | .timeout confirmed => (if sender.watched then sender.onTimeoutEvent confirmed else sender,())

structure Intact (sender : Sender) : Prop where
  whole : ∀ connection ∈ sender.connections, connection.Whole sender.pushed
  once : sender.connections.Pairwise (fun earlier later => earlier.first + earlier.completed ≤ later.first)
  discards : ∀ index < sender.freed,
    (∃ connection ∈ sender.connections, connection.first ≤ index ∧
      index < connection.first + connection.completed) ∨
      (0 ≤ sender.resendTimes ∧ ∃ count, (index,count) ∈ sender.discarded ∧ sender.resendTimes < count)

/-- A confirmed timeout finds nothing of the current message on the connection. -/
def AtBoundary : Action → Prop
  | .timeout true => sender.watched = true → sender.currentOffset = 0
  | _ => True

end

instance (sender : Sender) : (action : Action) → Decidable (sender.AtBoundary action)
  | .timeout true => inferInstanceAs (Decidable (_ → _))
  | .timeout false | .push _ | .connect | .event _ => isTrue trivial

end Sender

end Mooon.Dispatcher

import Mooon.Dispatcher.Sender
import Mooon.Net.DataChannel
import Mathlib.Algebra.Group.Nat.Defs
import Mathlib.Data.List.Nodup

/-! One `CSender` of the dispatcher with all kinds of messages. The members of the class stand next
to the calls of the reply handler, the sends, and the numbers of the messages that were destroyed;
each message that the queue accepts gets the next number. The pipe of the queue and the setting of
`TCP_CORK` around `send_file` do not fail. -/
namespace Mooon.Dispatcher.Messages
open Run
open Net.DataChannel (Syscall Write)
open List Option

/-- A message as `create_file_message`, `create_buffer_message` and `create_stop_message` make it;
the one of a file has the bits of an `off_t` and the file of the descriptor. -/
inductive Content where
  | file (fileSize offset : Nat) (file : Bytes)
  | buffer (data : Bytes)
  | stop
deriving DecidableEq

def Content.length : Content → Nat
  | .file fileSize _ _ => fileSize
  | .buffer data => data.length
  | .stop => 0

structure Message where
  number : Nat
  content : Content
deriving DecidableEq

def Message.length (message : Message) : Nat := message.content.length

/-- The calls of the reply handler, and the sends with what they ask for and what was taken. -/
inductive Call where
  | beforeSend
  | fileSent (offset count : Nat) (taken : Option Bytes)
  | bufferSent (count : Nat) (taken : Option Bytes)
  | sendProgress (total finished current : Nat)
  | sendCompleted
deriving DecidableEq

structure Sender where
  resendTimes : Int
  queueMax : Nat
  sendQueue : List Message
  currentMessage : Option Message
  currentOffset : Nat
  curResendTimes : Nat
  accepted : Nat
  destroyed : List Nat
  calls : List Call

namespace Sender

def start (resendTimes : Int) (queueMax : Nat) : Sender := ⟨resendTimes,queueMax,[],none,0,0,0,[],[]⟩

section
variable (sender : Sender)

def needResend : Bool := sender.resendTimes < 0 || sender.curResendTimes < sender.resendTimes

def called (calls : List Call) : Sender := {sender with calls := sender.calls ++ calls}

def getCurrentMessage : Sender :=
  match sender.currentMessage, sender.sendQueue with
  | none, message::rest => {sender with currentMessage := some message, sendQueue := rest}.called
    [.beforeSend]
  | _, _ => sender

def freeCurrentMessage : Sender :=
  {sender with
    curResendTimes := 0
    currentMessage := none
    currentOffset := 0
    destroyed := sender.destroyed ++ sender.currentMessage.toList.map Message.number}

def resetCurrentMessage (finish : Bool) : Sender :=
  match sender.currentMessage with
  | none => sender
  | some message =>
    if finish then sender.freeCurrentMessage
    else if sender.needResend then
      match message.content with
      | .buffer _ => {sender with curResendTimes := sender.curResendTimes + 1, currentOffset := 0}
      -- a file goes on where it was
      | _ => {sender with curResendTimes := sender.curResendTimes + 1}
    else sender.freeCurrentMessage

def send (message : Message) (currentOffset : Nat) (results : List Syscall) :
    Option ((Option Bytes → Call) × Except Int (Option Bytes)) :=
  match message.content with
  | .file _ start file =>
    let offset := (start + currentOffset) % 2^64
    let size := (message.length + 2^64 - offset) % 2^64
    some (.fileSent offset size,
      if 2^63 ≤ offset then .error Net.DataChannel.einval
      else Net.DataChannel.sendFile file offset size results)
  | .buffer data =>
    some (.bufferSent (message.length - currentOffset),Net.DataChannel.send (data.drop currentOffset) results)
  | .stop => none

/-- The bytes have left; `none` when the message is at its end, and the loop goes on with the next one. -/
def progress (message : Message) (bytes : Bytes) : Sender × Option EpollEvent :=
  let sender := {sender with currentOffset := sender.currentOffset + bytes.length}
  let sender := sender.called [.sendProgress message.length sender.currentOffset bytes.length]
  if sender.currentOffset < message.length then (sender,some .epollReadWrite)
  else ((sender.called [.sendCompleted]).resetCurrentMessage true,none)

/-- The body of the loop in `do_send_message`. An exception ends the event like a returned
`epoll_close`; `watched` says whether `set_events` can watch the queue. -/
def sendCurrentMessage (watched : Bool) (results : List Syscall) : Sender × Option EpollEvent :=
  let sender := sender.getCurrentMessage
  match sender.currentMessage with
  | none => (sender,some (if watched then .epollRead else .epollClose))
  | some message =>
    match send message sender.currentOffset results with
    | none => (sender.freeCurrentMessage,some .epollClose)
    | some (call,.error _) => (sender.called [call none],some .epollClose)
    | some (call,.ok none) => (sender.called [call none],some .epollReadWrite)
    | some (call,.ok (some bytes)) => (sender.called [call (some bytes)]).progress message bytes

/-- Each round of the loop takes the results of its send; without any it would block. -/
def doSendMessage (sender : Sender) (watched : Bool) : List (List Syscall) → Sender × EpollEvent
  | [] =>
    let (sender,event) := sender.sendCurrentMessage watched []
    (sender,event.getD .epollReadWrite)
  | results::rest =>
    match sender.sendCurrentMessage watched results with
    | (sender,some event) => (sender,event)
    | (sender,none) => sender.doSendMessage watched rest

inductive Event where
  | epollHup
  | epollErr
  | epollIn (reply : Reply)
  | epollOut (watched : Bool) (results : List (List Syscall))
  | unknown

def tryEvent : Event → Sender × EpollEvent
  | .epollHup | .epollErr | .unknown => (sender,.epollClose)
  | .epollIn reply => (sender,Dispatcher.Sender.handleReply reply)
  | .epollOut watched results => sender.doSendMessage watched results

def handleEpollEvent (event : Event) : Sender × EpollEvent :=
  match sender.tryEvent event with
  | (sender,.epollClose) => (sender.resetCurrentMessage false,.epollClose)
  | answer => answer

def pushMessage (content : Content) : Sender × Bool :=
  if sender.queueMax ≤ sender.sendQueue.length then (sender,false)
  else
    ({sender with
      sendQueue := sender.sendQueue ++ [⟨sender.accepted,content⟩]
      accepted := sender.accepted + 1},true)

def clearMessage : Sender :=
  {sender with sendQueue := [], destroyed := sender.destroyed ++ sender.sendQueue.map Message.number}

def destroy : Sender := sender.clearMessage

/-- A timeout closes the connection and connects again, without a word to the sender about its message. -/
inductive Action where
  | push (content : Content)
  | event (event : Event)
  | timeout

def step : Action → Sender × Unit
  | .push content => ((sender.pushMessage content).1,())
  | .event event => ((sender.handleEpollEvent event).1,())
  | .timeout => (sender,())

end

end Sender

namespace Sender

/-- The numbers of all messages that were accepted, in the order of their acceptance: destroyed,
being sent, waiting. -/
def numbers (sender : Sender) : List Nat :=
  sender.destroyed ++ sender.currentMessage.toList.map Message.number ++ sender.sendQueue.map Message.number

def Placed (sender : Sender) : Prop := sender.numbers = List.range sender.accepted

variable (sender : Sender)

@[simp] theorem numbers_called {calls : List Call} : (sender.called calls).numbers = sender.numbers := rfl

/-- Neither a message nor the count of those that were accepted is lost. -/
structure Keeps (before after : Sender) : Prop where
  numbers : after.numbers = before.numbers
  accepted : after.accepted = before.accepted

theorem Keeps.refl : Keeps sender sender := ⟨rfl,rfl⟩

theorem Keeps.trans {first second third : Sender} (here : Keeps first second) (there : Keeps second third) :
    Keeps first third :=
  ⟨there.numbers.trans here.numbers,there.accepted.trans here.accepted⟩

theorem getCurrentMessage_keeps : Keeps sender sender.getCurrentMessage := by
  unfold getCurrentMessage
  split
  · rename_i msg rest none queue
    constructor
    · rw [numbers_called]
      simp [numbers,none,queue]
    · rfl
  · exact Keeps.refl sender

theorem freeCurrentMessage_keeps : Keeps sender sender.freeCurrentMessage := by
  constructor
  · simp [numbers,freeCurrentMessage]
  · rfl

theorem resetCurrentMessage_keeps {finish : Bool} : Keeps sender (sender.resetCurrentMessage finish) := by
  unfold resetCurrentMessage
  split
  · exact Keeps.refl sender
  · split_ifs
    · exact freeCurrentMessage_keeps sender
    · split <;> exact ⟨rfl,rfl⟩
    · exact freeCurrentMessage_keeps sender

theorem progress_keeps {msg : Message} {bytes : Bytes} : Keeps sender (sender.progress msg bytes).1 := by
  unfold progress
  dsimp only
  split
  · exact ⟨rfl,rfl⟩
  · refine Keeps.trans ?_ (resetCurrentMessage_keeps _)
    exact ⟨rfl,rfl⟩

theorem sendCurrentMessage_keeps (watched : Bool) (ress : List Syscall) :
    Keeps sender (sender.sendCurrentMessage watched ress).1 := by
  refine (getCurrentMessage_keeps sender).trans ?_
  unfold sendCurrentMessage
  dsimp only
  split
  · exact Keeps.refl _
  · split
    · exact freeCurrentMessage_keeps _
    · exact ⟨rfl,rfl⟩
    · exact ⟨rfl,rfl⟩
    · refine Keeps.trans ?_ (progress_keeps _)
      exact ⟨rfl,rfl⟩

variable {ress : List (List Syscall)} {watched : Bool}

theorem doSendMessage_keeps :
    Keeps sender (sender.doSendMessage watched ress).1 := by
  induction ress generalizing sender with
  | nil => exact sendCurrentMessage_keeps sender watched []
  | cons first rest ih =>
    have kept := sendCurrentMessage_keeps sender watched first
    unfold doSendMessage
    split
    · rename_i next event sent
      rw [sent] at kept
      exact kept
    · rename_i next sent
      rw [sent] at kept
      exact kept.trans (ih next)

theorem handleEpollEvent_keeps (event : Event) : Keeps sender (sender.handleEpollEvent event).1 := by
  have tried : Keeps sender (sender.tryEvent event).1 := by
    cases event with
    | epollOut watched ress => exact doSendMessage_keeps sender
    | epollHup | epollErr | epollIn | unknown => exact Keeps.refl sender
  unfold handleEpollEvent
  split
  · rename_i next closed
    rw [closed] at tried
    exact tried.trans (resetCurrentMessage_keeps next)
  · exact tried

theorem pushMessage_placed {sender : Sender} (placed : sender.Placed) {content : Content} :
    (sender.pushMessage content).1.Placed := by
  unfold pushMessage
  split
  · exact placed
  · unfold Placed numbers at placed ⊢
    rw [range_succ,← placed]
    simp

theorem step_placed {sender : Sender} (placed : sender.Placed) {act : Action} :
    (step sender act).1.Placed := by
  cases act with
  | push content => exact pushMessage_placed placed
  | event event =>
    have kept := handleEpollEvent_keeps sender event
    unfold Placed
    rw [step,kept.numbers,kept.accepted]
    exact placed
  | timeout => exact placed

theorem start_placed {resendTimes : Int} {queueMax : Nat} : (start resendTimes queueMax).Placed := rfl

theorem final_placed {sender : Sender} (placed : sender.Placed) {acts : List Action} :
    (final step sender acts).Placed := by
  induction acts generalizing sender with
  | nil => exact placed
  | cons act rest ih => exact ih (step_placed placed)

def AllDestroyed (sender : Sender) : Prop := ∀ number < sender.accepted, sender.destroyed.count number = 1

theorem destroy_numbers (none : sender.currentMessage = none) :
    sender.destroy.destroyed = sender.numbers := by
  simp [destroy,clearMessage,numbers,none]

/-- The messages that were accepted are all destroyed when the sender is exactly if none is being
sent then. -/
theorem destroyed_once_iff (resendTimes : Int) (queueMax : Nat) (actions : List Action) :
    (final step (start resendTimes queueMax) actions).destroy.AllDestroyed ↔
      (final step (start resendTimes queueMax) actions).currentMessage = none := by
  have placed : (final step (start resendTimes queueMax) actions).Placed := final_placed start_placed
  generalize final step (start resendTimes queueMax) actions = sender at placed ⊢
  have once (number : Nat) (inside : number < sender.accepted) : sender.numbers.count number = 1 := by
    rw [placed]
    exact nodup_iff_count_eq_one.mp nodup_range number (mem_range.mpr inside)
  constructor
  · intro all
    -- the number of the current message is already counted
    cases current : sender.currentMessage with
    | none => rfl
    | some message =>
      have member : message.number ∈ sender.numbers := by simp [numbers,current]
      have inside : message.number < sender.accepted := by
        rw [placed] at member
        exact mem_range.mp member
      have whole := once message.number inside
      have part := all message.number inside
      simp only [destroy,clearMessage,count_append] at part
      simp only [numbers,current,toList_some,map_singleton,count_append,count_singleton_self]
        at whole
      omega
  · intro none number inside
    rw [destroy_numbers sender none]
    exact once number inside

theorem current_message_leaks :
    ¬ (final step (start 0 10) [.push (.buffer [1,2]),
      .event (.epollOut true [[.accepted 1]])]).destroy.AllDestroyed := by
  intro all
  exact absurd (all 0 (by decide)) (by decide)

/-- At any time the messages are destroyed, being sent or waiting in the order in which they were accepted. -/
theorem messages_in_order (resendTimes : Int) (queueMax : Nat) (actions : List Action) :
    let sender := final step (start resendTimes queueMax) actions
    sender.destroyed ++ (sender.currentMessage.toList ++ sender.sendQueue).map Message.number =
      range sender.accepted := by
  intro sender
  rw [map_append,← append_assoc]
  exact final_placed start_placed

theorem doSendMessage_returned {sender : Sender}
    {next : Sender} {answer : EpollEvent}
    (gave : sender.sendCurrentMessage watched (ress.headD []) = (next,some answer)) :
    sender.doSendMessage watched ress = (next,answer) := by
  cases ress with
  | nil =>
    rw [doSendMessage]
    change sender.sendCurrentMessage watched [] = _ at gave
    rw [gave]
    rfl
  | cons first rest =>
    rw [doSendMessage]
    change sender.sendCurrentMessage watched first = _ at gave
    rw [gave]

end Sender

end Mooon.Dispatcher.Messages

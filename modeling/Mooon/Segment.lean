import Mathlib.Data.List.Basic

/-! What one connection of a sender of messages has carried: messages that are sent whole, and the
first part of the one that is being sent. -/
namespace Mooon

structure Segment (Message : Type) where
  whole : List Message
  next : Option Message
  sent : Nat

namespace Segment
variable {Message Byte : Type} (text : Message → List Byte)

def empty : Segment Message := ⟨[],none,0⟩

def messages (segment : Segment Message) : List Message := segment.whole ++ segment.next.toList

def bytes (segment : Segment Message) : List Byte :=
  segment.whole.flatMap text ++ segment.next.toList.flatMap fun message => (text message).take segment.sent

def Proper (segment : Segment Message) : Prop :=
  ∀ message ∈ segment.next, segment.sent < (text message).length

def start (message : Message) (segment : Segment Message) : Segment Message := ⟨segment.whole,some message,0⟩

def send (size : Nat) (segment : Segment Message) : Segment Message :=
  {segment with sent := segment.sent + size}

def finish (segment : Segment Message) : Segment Message := ⟨segment.messages,none,0⟩

variable {text} {segment : Segment Message} {msg : Message}

@[simp] theorem messages_empty : (empty : Segment Message).messages = [] := rfl

theorem bytes_start (idle : segment.next = none) : (segment.start msg).bytes text = segment.bytes text := by
  simp [bytes,start,idle]

theorem messages_start (idle : segment.next = none) :
    (segment.start msg).messages = segment.messages ++ [msg] := by
  simp [messages,start,idle]

theorem bytes_send (cur : segment.next = some msg) (size : Nat) :
    (segment.send size).bytes text = segment.bytes text ++ ((text msg).drop segment.sent).take size := by
  simp [bytes,send,cur,List.take_add]

theorem bytes_finish (cur : segment.next = some msg) (reached : segment.sent = (text msg).length) :
    segment.finish.bytes text = segment.bytes text := by
  simp [bytes,finish,messages,cur,reached]

end Segment

end Mooon

import Mooon.Dispatcher.Messages

/-! The transmission of a file message on one connection. What is asked for starts at the offset of
the message, but the message is finished by the number of bytes that were sent; the two agree for
the offset 0 only. -/
namespace Mooon.Dispatcher.Messages
open Run
open Net.DataChannel (Syscall Write offer)
open List

structure WriteEvent where
  watched : Bool
  writes : List Write

def WriteEvent.accepts (event : WriteEvent) : Bool := (event.writes.head?.bind Write.accepted).isSome

def accepting (events : List WriteEvent) : Nat := events.countP WriteEvent.accepts

namespace Sender

def stepOut (sender : Sender) (event : WriteEvent) : Sender × EpollEvent :=
  sender.doSendMessage event.watched (event.writes.map Write.results)

end Sender

/-- The calls of a transmission of the bytes `whole`, which a file has from `offset` on: those of
`sent` have left, those of `rest` have not, and no send asked for more than was left. -/
inductive Transfer (total offset : Nat) (whole : Bytes) : List Call → Bytes → Bytes → Prop
  | start : Transfer total offset whole [] [] whole
  | blocked {calls : List Call} {sent rest : Bytes} {count : Nat}
    (before : Transfer total offset whole calls sent rest)
      (enough : count ≤ rest.length) :
      Transfer total offset whole (calls ++ [.fileSent (offset + sent.length) count none]) sent rest
  | taken {calls : List Call} {sent piece rest : Bytes} {count : Nat}
      (before : Transfer total offset whole calls sent (piece ++ rest))
        (enough : count ≤ (piece ++ rest).length) :
      Transfer total offset whole (calls ++ [.fileSent (offset + sent.length) count (some piece),
        .sendProgress total (sent ++ piece).length piece.length]) (sent ++ piece) rest

section
variable (message : Message) (fileSize offset : Nat) (file : Bytes) (before : List Call)

def wanted : Bytes := file.drop offset

/-- Some bytes are missing, or nothing was to be sent and no send has returned so far. -/
def Underway (count : Nat) (sender : Sender) : Prop :=
  ∃ calls sent rest, Transfer fileSize offset (wanted offset file) calls sent rest ∧
    sender.currentMessage = some message ∧ sender.calls = before ++ .beforeSend :: calls ∧
    (rest ≠ [] ∨ count = 0)

/-- The last byte was sent and this reported, the message was destroyed, and the next one begun if
there is one. -/
def Finished (later : List Message) (sender : Sender) : Prop :=
  ∃ calls more, Transfer fileSize offset (wanted offset file) calls (wanted offset file) [] ∧
    sender.calls = before ++ .beforeSend :: calls ++ .sendCompleted :: more ∧
    message.number ∈ sender.destroyed ∧ more.head? = later.head?.map fun _ => .beforeSend

def Ongoing (sender : Sender) (events : List WriteEvent) : Prop :=
  (∀ answer ∈ Run.outputs Sender.stepOut sender events, answer = .epollReadWrite) ∧
    Underway message fileSize offset file before (accepting events) (Run.final Sender.stepOut sender events)

def Completed (later : List Message) (sender : Sender) (events : List WriteEvent) : Prop :=
  Run.Ends Sender.stepOut (· = .epollReadWrite)
    (fun outcome => Finished message fileSize offset file before later outcome.1) sender events

end

/-- Whatever the sends take, the rest of the file leaves in order, and as many events that accept
something as there are bytes complete it; an empty rest takes one. -/
def FileSent (message : Message) (fileSize offset : Nat) (file : Bytes) (later : List Message)
    (sender : Sender) : Prop :=
  ∀ events, events ≠ [] →
    (Ongoing message fileSize offset file sender.calls sender events ∨
      Completed message fileSize offset file sender.calls later sender events) ∧
    (max 1 (fileSize - offset) ≤ accepting events →
      Completed message fileSize offset file sender.calls later sender events)

variable {offset : Nat}

theorem Transfer.split {total : Nat} {whole : Bytes} {calls : List Call} {sent rest : Bytes}
    (transfer : Transfer total offset whole calls sent rest) : sent ++ rest = whole := by
  induction transfer with
  | start => rfl
  | blocked _ _ ih => exact ih
  | taken _ _ ih =>
    rw [append_assoc]
    exact ih

namespace Sender

structure Sending (number fileSize offset : Nat) (file : Bytes) (later : List Message) (before : List Call)
    (calls : List Call) (sent rest : Bytes) (sender : Sender) : Prop where
  current : sender.currentMessage = some ⟨number,.file fileSize offset file⟩
  moved : sender.currentOffset = sent.length
  logged : sender.calls = before ++ .beforeSend :: calls
  queue : sender.sendQueue = later
  transfer : Transfer fileSize offset (wanted offset file) calls sent rest

section
variable {number fileSize offset : Nat} {file : Bytes} {later : List Message} {before calls : List Call}
  {sent rest : Bytes} {sender : Sender}

section
variable (sending : Sending number fileSize offset file later before calls sent rest sender)
include sending

theorem Sending.rest_eq : rest = file.drop (offset + sent.length) := by
  have split := sending.transfer.split
  rw [← drop_drop]
  change rest = (wanted offset file).drop sent.length
  rw [← split,drop_left]

theorem send_file (inside : offset ≤ fileSize) (size : file.length = fileSize) (bound : fileSize < 2^63)
    (ress : List Syscall) :
    send ⟨number,.file fileSize offset file⟩ sent.length ress =
      some (.fileSent (offset + sent.length) rest.length,offer rest ress) := by
  have split := congrArg length sending.transfer.split
  rw [length_append,wanted,length_drop] at split
  have pos : (offset + sent.length) % 2^64 = offset + sent.length := Nat.mod_eq_of_lt (by omega)
  have count : (fileSize + 2^64 - (offset + sent.length)) % 2^64 = rest.length := by omega
  have offered : (file.drop (offset + sent.length)).take rest.length = rest := by
    rw [← sending.rest_eq,take_length]
  simp only [send,Message.length,Content.length,Net.DataChannel.sendFile]
  rw [pos,count,if_neg (by omega),offered]

theorem Sending.got : sender.getCurrentMessage = sender := by
  unfold getCurrentMessage
  rw [sending.current]

end

def moved (sender : Sender) (fileSize offset : Nat) (sent rest piece : Bytes) : Sender :=
  {sender.called [.fileSent (offset + sent.length) rest.length (some piece)] with
    currentOffset := (sent ++ piece).length}.called
      [.sendProgress fileSize (sent ++ piece).length piece.length]

variable {piece last : Bytes}

theorem Sending.taken
    (sending : Sending number fileSize offset file later before calls sent (piece ++ last) sender) :
    Sending number fileSize offset file later before
      (calls ++ [.fileSent (offset + sent.length) (piece ++ last).length (some piece),
        .sendProgress fileSize (sent ++ piece).length piece.length]) (sent ++ piece) last
      (sender.moved fileSize offset sent (piece ++ last) piece) := by
  refine ⟨sending.current,rfl,?_,sending.queue,sending.transfer.taken le_rfl⟩
  change sender.calls ++ _ ++ _ = _
  rw [sending.logged,append_assoc,append_assoc]
  rfl

variable {ress : List Syscall} {watched : Bool}

theorem round_blocked (sending : Sending number fileSize offset file later before calls sent rest sender)
    (inside : offset ≤ fileSize) (size : file.length = fileSize) (bound : fileSize < 2^63)
    (blocked : offer rest ress = .ok none) :
    Sending number fileSize offset file later before
      (calls ++ [.fileSent (offset + sent.length) rest.length none])
        sent rest (sender.called [.fileSent (offset + sent.length) rest.length none]) ∧
      sender.sendCurrentMessage watched ress =
        (sender.called [.fileSent (offset + sent.length) rest.length none],some .epollReadWrite) := by
  constructor
  · refine ⟨sending.current,sending.moved,?_,sending.queue,sending.transfer.blocked le_rfl⟩
    change sender.calls ++ _ = _
    rw [sending.logged,append_assoc]
    rfl
  · unfold sendCurrentMessage
    rw [sending.got]
    dsimp only
    rw [sending.current]
    dsimp only
    rw [sending.moved,send_file sending inside size bound,blocked]

theorem round_taken
    (sending : Sending number fileSize offset file later before calls sent (piece ++ last) sender)
    (inside : offset ≤ fileSize) (size : file.length = fileSize) (bound : fileSize < 2^63)
    (taken : offer (piece ++ last) ress = .ok (some piece)) (watched : Bool) :
    sender.sendCurrentMessage watched ress =
      if (sent ++ piece).length < fileSize then
        (sender.moved fileSize offset sent (piece ++ last) piece,some .epollReadWrite)
      else
        (((sender.moved fileSize offset sent (piece ++ last) piece).called
          [.sendCompleted]).freeCurrentMessage,none) := by
  have moved : {sender.called [.fileSent (offset + sent.length) (piece ++ last).length (some piece)] with
      currentOffset := sent.length + piece.length}.called
        [.sendProgress fileSize (sent.length + piece.length) piece.length] =
      sender.moved fileSize offset sent (piece ++ last) piece := by
    rw [← length_append]
    rfl
  have finished (next : Sender) (cur : next.currentMessage = some ⟨number,.file fileSize offset file⟩) :
      next.resetCurrentMessage true = next.freeCurrentMessage := by
    unfold resetCurrentMessage
    rw [cur]
    rfl
  unfold sendCurrentMessage
  rw [sending.got]
  dsimp only
  rw [sending.current]
  dsimp only
  rw [sending.moved,send_file sending inside size bound,taken]
  unfold progress
  dsimp only
  have pos : (sender.called
    [.fileSent (offset + sent.length) (piece ++ last).length (some piece)]).currentOffset =
      sent.length := sending.moved
  rw [pos]
  have total : Message.length ⟨number,.file fileSize offset file⟩ = fileSize := rfl
  rw [total,moved,finished ((sender.moved fileSize offset sent (piece ++ last) piece).called
    [.sendCompleted]) sending.current]
  rfl

theorem offer_first (event : WriteEvent) (rest : Bytes) :
    offer rest ((event.writes.map Write.results).headD []) =
      .ok (event.writes.head?.bind fun write => write.taken rest) := by
  cases writes : event.writes with
  | nil => rfl
  | cons write writes => exact Net.DataChannel.offer_write rest write

theorem accepts_eq (event : WriteEvent) (rest : Bytes) :
    event.accepts = (event.writes.head?.bind fun write => write.taken rest).isSome := by
  unfold WriteEvent.accepts
  cases event.writes.head? with
  | none => rfl
  | some write => exact Option.isSome_map.symm

variable {event : WriteEvent}

theorem stepOut_cases (sending : Sending number fileSize offset file later before calls sent rest sender)
    (inside : offset ≤ fileSize) (size : file.length = fileSize) (bound : fileSize < 2^63) :
    (event.accepts = false ∧ ∃ calls next,
      Sending number fileSize offset file later before calls sent rest next ∧
        sender.stepOut event = (next,.epollReadWrite)) ∨
      ∃ piece last calls next, event.accepts = true ∧ piece ++ last = rest ∧ (rest ≠ [] → piece ≠ []) ∧
        Sending number fileSize offset file later before calls (sent ++ piece) last next ∧
        ((sent ++ piece).length < fileSize ∧ sender.stepOut event = (next,.epollReadWrite) ∨
          fileSize ≤ (sent ++ piece).length ∧ ∃ writes, sender.stepOut event =
            (next.called [.sendCompleted]).freeCurrentMessage.doSendMessage event.watched writes) := by
  have offered := offer_first event rest
  have accepts := accepts_eq event rest
  cases taken : event.writes.head?.bind fun write => write.taken rest with
  | none =>
    rw [taken] at offered accepts
    obtain ⟨next,round⟩ := round_blocked sending inside size bound offered
    exact .inl ⟨accepts,_,_,next,doSendMessage_returned round⟩
  | some piece =>
    obtain ⟨write,first,some⟩ := Option.bind_eq_some_iff.mp taken
    obtain ⟨whole,nonempty⟩ := Net.DataChannel.taken_prefix some
    rw [taken] at offered accepts
    rw [← whole] at sending offered
    have round := round_taken sending inside size bound offered event.watched
    refine .inr ⟨piece,rest.drop piece.length,_,_,accepts,whole,nonempty,sending.taken,?_⟩
    by_cases more : (sent ++ piece).length < fileSize
    · rw [if_pos more] at round
      exact .inl ⟨more,doSendMessage_returned round⟩
    · rw [if_neg more] at round
      refine .inr ⟨by omega,event.writes.tail.map Write.results,?_⟩
      obtain ⟨others,split⟩ := head?_eq_some_iff.mp first
      unfold stepOut
      rw [split,map_cons,doSendMessage]
      rw [split] at round
      change sender.sendCurrentMessage event.watched write.results = _ at round
      rw [round]
      rfl

structure Adds (before after : Sender) : Prop where
  calls : before.calls <+: after.calls
  destroyed : before.destroyed <+: after.destroyed

theorem Adds.refl (sender : Sender) : Adds sender sender := ⟨prefix_rfl,prefix_rfl⟩

theorem Adds.trans {first second third : Sender} (here : Adds first second) (there : Adds second third) :
    Adds first third :=
  ⟨here.calls.trans there.calls,here.destroyed.trans there.destroyed⟩

variable {sender : Sender}

theorem called_adds : Adds sender (sender.called calls) :=
  ⟨prefix_append _ _,prefix_rfl⟩

theorem freeCurrentMessage_adds : Adds sender sender.freeCurrentMessage :=
  ⟨prefix_rfl,prefix_append _ _⟩

theorem getCurrentMessage_adds (sender : Sender) : Adds sender sender.getCurrentMessage := by
  unfold getCurrentMessage
  split
  · exact ⟨prefix_append _ _,prefix_rfl⟩
  · exact Adds.refl sender

theorem resetCurrentMessage_adds {finish : Bool} : Adds sender (sender.resetCurrentMessage finish) := by
  unfold resetCurrentMessage
  split
  · exact Adds.refl sender
  · split_ifs
    · exact freeCurrentMessage_adds
    · split <;> exact ⟨prefix_rfl,prefix_rfl⟩
    · exact freeCurrentMessage_adds

theorem progress_adds {msg : Message} {bytes : Bytes} : Adds sender (sender.progress msg bytes).1 := by
  unfold progress
  dsimp only
  split
  · exact ⟨prefix_append _ _,prefix_rfl⟩
  · refine Adds.trans ?_ resetCurrentMessage_adds
    exact ⟨(prefix_append _ _).trans (prefix_append _ _),prefix_rfl⟩

theorem sendCurrentMessage_adds (sender : Sender) (watched : Bool) (ress : List Syscall) :
    Adds sender.getCurrentMessage (sender.sendCurrentMessage watched ress).1 := by
  unfold sendCurrentMessage
  dsimp only
  split
  · exact Adds.refl _
  · split
    · exact freeCurrentMessage_adds
    · exact called_adds
    · exact called_adds
    · exact called_adds.trans progress_adds

theorem doSendMessage_adds (sender : Sender) (watched : Bool) (ress : List (List Syscall)) :
    Adds sender.getCurrentMessage (sender.doSendMessage watched ress).1 := by
  induction ress generalizing sender with
  | nil => exact sendCurrentMessage_adds sender watched []
  | cons first rest ih =>
    have added := sendCurrentMessage_adds sender watched first
    unfold doSendMessage
    split
    · rename_i next event sent
      rw [sent] at added
      exact added
    · rename_i next sent
      rw [sent] at added
      exact (added.trans (getCurrentMessage_adds next)).trans (ih next)

theorem doSendMessage_empty (none : sender.currentMessage = none) (empty : sender.sendQueue = [])
    {ress : List (List Syscall)} : (sender.doSendMessage watched ress).1 = sender := by
  have got : sender.getCurrentMessage = sender := by
    unfold getCurrentMessage
    rw [none,empty]
  have gave : sender.sendCurrentMessage watched (ress.headD []) =
      (sender,some (if watched then .epollRead else .epollClose)) := by
    unfold sendCurrentMessage
    rw [got]
    dsimp only
    rw [none]
  rw [doSendMessage_returned gave]

theorem doSendMessage_next (none : sender.currentMessage = none) {ress : List (List Syscall)} :
    ∃ more, (sender.doSendMessage watched ress).1.calls = sender.calls ++ more ∧
      more.head? = sender.sendQueue.head?.map fun _ => .beforeSend := by
  cases queue : sender.sendQueue with
  | nil =>
    refine ⟨[],?_,rfl⟩
    rw [doSendMessage_empty none queue,append_nil]
  | cons msg later =>
    obtain ⟨more,added⟩ := (doSendMessage_adds sender watched ress).calls
    refine ⟨.beforeSend :: more,?_,rfl⟩
    rw [← added,getCurrentMessage,none,queue]
    exact append_assoc ..

theorem Sending.finished (sending : Sending number fileSize offset file later before calls sent [] sender)
    (watched : Bool) (ress : List (List Syscall)) :
    Finished ⟨number,.file fileSize offset file⟩ fileSize offset file before later
      ((sender.called [.sendCompleted]).freeCurrentMessage.doSendMessage watched ress).1 := by
  have whole : sent = wanted offset file := by
    rw [← sending.transfer.split,append_nil]
  have transfer := sending.transfer
  rw [whole] at transfer
  obtain ⟨more,added,next⟩ := doSendMessage_next
    (rfl : (sender.called [.sendCompleted]).freeCurrentMessage.currentMessage = none)
  have kept : number ∈ (sender.called [.sendCompleted]).freeCurrentMessage.destroyed := by
    simp [freeCurrentMessage,called,sending.current]
  have destroyed := ((getCurrentMessage_adds _).trans (doSendMessage_adds
    (sender.called [.sendCompleted]).freeCurrentMessage watched ress)).destroyed
  refine ⟨calls,more,transfer,?_,destroyed.subset kept,?_⟩
  · rw [added]
    change sender.calls ++ [.sendCompleted] ++ more = _
    rw [sending.logged,append_assoc]
    rfl
  · rw [next]
    change sender.sendQueue.head?.map _ = _
    rw [sending.queue]

def Counted (number fileSize : Nat) (file : Bytes) (later : List Message) (before : List Call) (count : Nat)
    (sender : Sender) : Prop :=
  ∃ calls sent rest, Sending number fileSize 0 file later before calls sent rest sender ∧
    count ≤ sent.length ∧
    (rest ≠ [] ∨ fileSize = 0 ∧ count = 0)

variable {count : Nat}

theorem stepOut_counted (sending : Sending number fileSize 0 file later before calls sent rest sender)
    (enough : count ≤ sent.length) (missing : rest ≠ [] ∨ fileSize = 0 ∧ count = 0)
    (size : file.length = fileSize)
    (bound : fileSize < 2^63) (event : WriteEvent) : (sender.stepOut event).2 = .epollReadWrite ∧
        Counted number fileSize file later before (count + if event.accepts then 1 else 0)
          (sender.stepOut event).1 ∨
      Finished ⟨number,.file fileSize 0 file⟩ fileSize 0 file before later (sender.stepOut event).1 := by
  rcases stepOut_cases sending (Nat.zero_le _) size bound with
    ⟨refused,calls,next,same,stepped⟩ | ⟨piece,last,calls,next,accepted,split,nonempty,moved,outcome⟩
  · rw [stepped,refused]
    exact .inl ⟨rfl,calls,sent,rest,same,enough,missing⟩
  · have whole := congrArg length moved.transfer.split
    rw [wanted,drop_zero,length_append] at whole
    rcases outcome with ⟨fewer,stepped⟩ | ⟨all,writes,stepped⟩
    · have left : last ≠ [] := by
        rintro rfl
        rw [length_nil] at whole
        omega
      have some : rest ≠ [] := by
        rw [← split]
        exact append_ne_nil_of_right_ne_nil piece left
      have pos := length_pos_iff.mpr (nonempty some)
      rw [stepped,accepted,if_pos rfl]
      refine .inl ⟨rfl,calls,sent ++ piece,last,moved,?_,.inl left⟩
      rw [length_append]
      omega
    · have ended : last = [] := length_eq_zero_iff.mp (by omega)
      rw [ended] at moved
      rw [stepped]
      exact .inr (moved.finished event.watched writes)

section
variable (counted : Counted number fileSize file later before count sender)
include counted

theorem Counted.underway :
    Underway ⟨number,.file fileSize 0 file⟩ fileSize 0 file before count sender := by
  obtain ⟨calls,sent,rest,sending,_,missing⟩ := counted
  exact ⟨calls,sent,rest,sending.transfer,sending.current,sending.logged,missing.imp_right And.right⟩

theorem Counted.few
    (size : file.length = fileSize) : count < max 1 (fileSize - 0) := by
  obtain ⟨calls,sent,rest,sending,enough,missing⟩ := counted
  have whole := congrArg length sending.transfer.split
  rw [wanted,drop_zero,length_append] at whole
  rcases missing with left | ⟨_,zero⟩
  · have pos := length_pos_iff.mpr left
    omega
  · omega

end

theorem Transfer.not_completed {total : Nat} {whole : Bytes}
    (transfer : Transfer total offset whole calls sent rest) : .sendCompleted ∉ calls := by
  induction transfer with
  | start => exact not_mem_nil
  | blocked _ _ ih | taken _ _ ih => simpa using ih

section
variable (sending : Sending number fileSize offset file later before calls sent rest sender)
include sending

theorem Sending.not_finished
    {others : List Message} :
    ¬Finished ⟨number,.file fileSize offset file⟩ fileSize offset file before others sender := by
  rintro ⟨finished,more,_,logged,_⟩
  rw [sending.logged,append_assoc] at logged
  have same := append_cancel_left logged
  rw [cons_append,cons.injEq] at same
  apply Transfer.not_completed sending.transfer
  rw [same.2]
  exact mem_append_right _ mem_cons_self

theorem stepOut_stuck
    (inside : offset ≤ fileSize) (size : file.length = fileSize) (bound : fileSize < 2^63)
    (pos : 0 < offset) :
    ∃ calls sent rest, Sending number fileSize offset file later before calls sent rest
      (sender.stepOut event).1 := by
  rcases stepOut_cases sending inside size bound with
    ⟨_,calls,next,same,stepped⟩ | ⟨piece,last,calls,next,_,_,_,moved,outcome⟩
  · rw [stepped]
    exact ⟨calls,sent,rest,same⟩
  · have whole := congrArg length moved.transfer.split
    rw [wanted,length_drop,length_append] at whole
    rcases outcome with ⟨_,stepped⟩ | ⟨all,_⟩
    · rw [stepped]
      exact ⟨calls,sent ++ piece,last,moved⟩
    · omega

end

theorem getCurrentMessage_sending (none : sender.currentMessage = none) (fresh : sender.currentOffset = 0)
    (queue : sender.sendQueue = ⟨number,.file fileSize offset file⟩ :: later) :
    Sending number fileSize offset file later sender.calls [] [] (wanted offset file)
      sender.getCurrentMessage := by
  unfold getCurrentMessage
  rw [none,queue]
  exact ⟨rfl,fresh,rfl,rfl,.start⟩

theorem sendCurrentMessage_got :
    sender.getCurrentMessage.sendCurrentMessage watched ress = sender.sendCurrentMessage watched ress := by
  have twice : sender.getCurrentMessage.getCurrentMessage = sender.getCurrentMessage := by
    rcases sender with ⟨resendTimes,queueMax,queue,cur,currentOffset,curResendTimes,accepted,destroyed,calls⟩
    cases cur with
    | some msg => rfl
    | none => cases queue <;> rfl
  unfold sendCurrentMessage
  rw [twice]

theorem stepOut_got (sender : Sender) (event : WriteEvent) :
    sender.getCurrentMessage.stepOut event = sender.stepOut event := by
  unfold stepOut
  cases event.writes.map Write.results with
  | nil | cons first rest => rw [doSendMessage,doSendMessage,sendCurrentMessage_got]

end

end Sender

variable {number fileSize : Nat} {file : Bytes} {later : List Message} {sender : Sender}
  {events : List WriteEvent}

theorem never_completed
    (begun : Sender.Sending number fileSize offset file later sender.calls [] [] (wanted offset file)
      sender.getCurrentMessage) (inside : offset ≤ fileSize) (size : file.length = fileSize)
        (bound : fileSize < 2^63)
    (pos : 0 < offset) :
    ¬Completed ⟨number,.file fileSize offset file⟩ fileSize offset file sender.calls later sender events := by
  apply not_ends (fun state => state = sender ∨
    ∃ calls sent rest, Sender.Sending number fileSize offset file later sender.calls calls sent rest state)
  · intro state event holds
    have next : ∃ calls sent rest,
      Sender.Sending number fileSize offset file later sender.calls calls sent rest
        (state.stepOut event).1 := by
      rcases holds with rfl | ⟨calls,sent,rest,sending⟩
      · rw [← Sender.stepOut_got]
        exact Sender.stepOut_stuck begun inside size bound pos
      · exact Sender.stepOut_stuck sending inside size bound pos
    refine ⟨.inr next,?_⟩
    obtain ⟨calls,sent,rest,sending⟩ := next
    exact sending.not_finished
  · exact .inl rfl

theorem counted_or_completed (none : sender.currentMessage = none) (fresh : sender.currentOffset = 0)
    (queue : sender.sendQueue = ⟨number,.file fileSize 0 file⟩ :: later) (size : file.length = fileSize)
    (bound : fileSize < 2^63) (some : events ≠ []) :
    (∀ answer ∈ outputs Sender.stepOut sender events, answer = .epollReadWrite) ∧
        Sender.Counted number fileSize file later sender.calls (accepting events)
          (final Sender.stepOut sender events) ∨
      Completed ⟨number,.file fileSize 0 file⟩ fileSize 0 file sender.calls later sender events := by
  have begun := Sender.getCurrentMessage_sending none fresh queue
  refine stays_or_ends_first WriteEvent.accepts
    (Sender.Counted number fileSize file later sender.calls) ?_ sender
    ?_ events some
  · rintro count state event ⟨calls,sent,rest,sending,enough,missing⟩
    exact Sender.stepOut_counted sending enough missing size bound event
  · intro event
    have missing : wanted 0 file ≠ [] ∨ fileSize = 0 ∧ 0 = 0 := by
      by_cases empty : file = []
      · exact .inr ⟨by rw [← size,empty,length_nil],rfl⟩
      · exact .inl empty
    have first := Sender.stepOut_counted begun (Nat.zero_le 0) missing size bound event
    rw [Sender.stepOut_got,Nat.zero_add] at first
    exact first

/-- The rest of a file is sent, reported and followed by the next message exactly when it is the
whole file. -/
theorem file_sent_iff (number fileSize offset : Nat) (file : Bytes) (later : List Message) (sender : Sender)
    (none : sender.currentMessage = none) (fresh : sender.currentOffset = 0)
    (queue : sender.sendQueue = ⟨number,.file fileSize offset file⟩ :: later) (inside : offset ≤ fileSize)
    (size : file.length = fileSize) (bound : fileSize < 2^63) :
    FileSent ⟨number,.file fileSize offset file⟩ fileSize offset file later sender ↔ offset = 0 := by
  have begun := Sender.getCurrentMessage_sending none fresh queue
  constructor
  · intro sent
    by_contra nonzero
    -- events that accept a byte each, as many as should be enough
    let events := replicate (max 1 (fileSize - offset)) (⟨true,[⟨0,some 1⟩]⟩ : WriteEvent)
    have count : accepting events = max 1 (fileSize - offset) := by
      simp [events,accepting,WriteEvent.accepts,countP_replicate]
    have some : events ≠ [] := by
      rw [← length_pos_iff,length_replicate]
      omega
    exact never_completed begun inside size bound (by omega) ((sent events some).2 count.ge)
  · intro zero events some
    subst zero
    have run := counted_or_completed none fresh queue size bound some
    constructor
    · exact run.imp_left fun ⟨answers,counted⟩ => ⟨answers,counted.underway⟩
    · intro enough
      refine run.resolve_left fun ⟨_,counted⟩ => ?_
      have few := counted.few size
      omega

def twoMessages (offset : Nat) : Sender :=
  {Sender.start 0 10 with sendQueue := [⟨0,.file 3 offset [7,8,9]⟩,⟨1,.buffer [1]⟩]}

theorem file_sent_whole : FileSent ⟨0,.file 3 0 [7,8,9]⟩ 3 0 [7,8,9] [⟨1,.buffer [1]⟩] (twoMessages 0) :=
  (file_sent_iff 0 3 0 [7,8,9] [⟨1,.buffer [1]⟩] (twoMessages 0) rfl rfl rfl (by decide) rfl
    (by decide)).mpr rfl

theorem file_unfinished : (final Sender.stepOut (twoMessages 1) (replicate 3 ⟨true,[⟨0,some 2⟩]⟩)).calls =
        [.beforeSend,.fileSent 1 2 (some [8,9]),.sendProgress 3 2 2,.fileSent 3 0 (some []),
          .sendProgress 3 2 0,
          .fileSent 3 0 (some []),.sendProgress 3 2 0] ∧
      ¬FileSent ⟨0,.file 3 1 [7,8,9]⟩ 3 1 [7,8,9] [⟨1,.buffer [1]⟩] (twoMessages 1) := by
  refine ⟨by decide,fun sent => ?_⟩
  have begun := Sender.getCurrentMessage_sending (rfl : (twoMessages 1).currentMessage = none) rfl rfl
  exact never_completed begun (by decide) rfl (by decide) (by decide)
    ((sent [⟨true,[⟨0,some 2⟩]⟩,⟨true,[⟨0,some 2⟩]⟩] (cons_ne_nil _ _)).2 (by decide))

end Mooon.Dispatcher.Messages

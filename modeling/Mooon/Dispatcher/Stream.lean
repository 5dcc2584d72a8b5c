import Mooon.Dispatcher.Sender

/-! What the connections of a sender carry. The bytes of the open connection are the messages
finished on it and the part of the current message before its offset. A connection that is
closed by an event leaves the offset at zero; one that is closed by a confirmed timeout leaves
the offset where it is. -/
namespace Mooon.Dispatcher
open List Option Run

theorem Connection.Whole.push {conn : Connection} {pushed : List Bytes} (whole : conn.Whole pushed)
    (bound : conn.first ≤ pushed.length) (msg : Bytes) : conn.Whole (pushed ++ [msg]) := by
  obtain ⟨done,rest,part,split,count,bytes,proper⟩ := whole
  refine ⟨done,rest ++ [msg],part,?_,count,bytes,?_⟩
  · rw [drop_append_of_le_length bound,split,append_assoc]
  · rcases proper with empty | ⟨next,later,found,proper⟩
    · exact .inl empty
    · exact .inr ⟨next,later ++ [msg],by rw [found,cons_append],proper⟩

/-- Each of the first `freed` messages was finished on one of the connections or discarded. -/
structure Accounted (resendTimes : Int) (discarded : List (Nat × Nat)) (freed : Nat)
    (connections : List Connection) : Prop where
  before : ∀ connection ∈ connections, connection.first + connection.completed ≤ freed
  once : connections.Pairwise (fun earlier later => earlier.first + earlier.completed ≤ later.first)
  discards : ∀ index < freed,
    (∃ connection ∈ connections, connection.first ≤ index ∧ index < connection.first + connection.completed) ∨
      (0 ≤ resendTimes ∧ ∃ count, (index,count) ∈ discarded ∧ resendTimes < count)

namespace Accounted
variable {resendTimes : Int} {discarded : List (Nat × Nat)} {freed : Nat} {conns closed : List Connection}

theorem opens (sums : Accounted resendTimes discarded freed conns) :
    Accounted resendTimes discarded freed (conns ++ [⟨freed,0,[]⟩]) := by
  refine ⟨?_,?_,?_⟩
  · intro conn mem
    rcases mem_append.mp mem with mem | mem
    · exact sums.before conn mem
    · rw [mem_singleton.mp mem]
      exact le_rfl
  · refine pairwise_append.mpr ⟨sums.once,pairwise_singleton _ _,?_⟩
    intro earlier mem later last
    rw [mem_singleton.mp last]
    exact sums.before earlier mem
  · intro index small
    rcases sums.discards index small with ⟨conn,mem,inside⟩ | given
    · exact .inl ⟨conn,mem_append_left _ mem,inside⟩
    · exact .inr given

theorem advance {last : Connection} (sums : Accounted resendTimes discarded freed (closed ++ [last]))
    (ends : last.first + last.completed = freed) (count : Nat) (bytes : Bytes) :
    Accounted resendTimes discarded (freed + count)
      (closed ++ [⟨last.first,last.completed + count,bytes⟩]) := by
  obtain ⟨before,once,discards⟩ := sums
  obtain ⟨once,-,earliest⟩ := pairwise_append.mp once
  refine ⟨?_,?_,?_⟩
  · intro conn mem
    rcases mem_append.mp mem with mem | mem
    · exact (before conn (mem_append_left _ mem)).trans (Nat.le_add_right _ _)
    · rw [mem_singleton.mp mem]
      show last.first + (last.completed + count) ≤ freed + count
      omega
  · refine pairwise_append.mpr ⟨once,pairwise_singleton _ _,?_⟩
    intro earlier mem later found
    rw [mem_singleton.mp found]
    exact earliest earlier mem last mem_cons_self
  · intro index small
    have newest (reached : last.first ≤ index) :
        ∃ conn ∈ closed ++ [⟨last.first,last.completed + count,bytes⟩],
          conn.first ≤ index ∧ index < conn.first + conn.completed :=
      ⟨_,mem_append_right _ mem_cons_self,reached,by dsimp only; omega⟩
    by_cases earlier : index < freed
    · rcases discards index earlier with ⟨conn,mem,inside⟩ | given
      · rcases mem_append.mp mem with mem | mem
        · exact .inl ⟨conn,mem_append_left _ mem,inside⟩
        · rw [mem_singleton.mp mem] at inside
          exact .inl (newest inside.1)
      · exact .inr given
    · exact .inl (newest (by omega))

theorem discard (sums : Accounted resendTimes discarded freed conns) {count : Nat}
    (limited : 0 ≤ resendTimes) (exceeded : resendTimes < count) :
    Accounted resendTimes (discarded ++ [(freed,count)]) (freed + 1) conns := by
  refine ⟨?_,sums.once,?_⟩
  · intro conn mem
    exact (sums.before conn mem).trans (Nat.le_succ _)
  · intro index small
    by_cases earlier : index < freed
    · rcases sums.discards index earlier with done | ⟨limited,count,mem,exceeded⟩
      · exact .inl done
      · exact .inr ⟨limited,count,mem_append_left _ mem,exceeded⟩
    · have newest : index = freed := by omega
      subst newest
      exact .inr ⟨limited,count,mem_append_right _ mem_cons_self,exceeded⟩

end Accounted

namespace Sender

def written (sender : Sender) : Bytes := (sender.currentMessage.getD []).take sender.currentOffset

def Carries (sender : Sender) (connection : Connection) : Prop :=
  connection.first + connection.completed = sender.freed ∧
    ∃ whole, sender.pushed.drop connection.first = whole ++ sender.pushed.drop sender.freed ∧
      whole.length = connection.completed ∧ connection.bytes = whole.flatten ++ sender.written

structure Valid (sender : Sender) : Prop where
  pending : sender.currentMessage.toList ++ sender.sendQueue = sender.pushed.drop sender.freed
  bound : sender.freed ≤ sender.pushed.length
  offset : sender.currentOffset = 0 ∨
    ∃ message, sender.currentMessage = some message ∧ sender.currentOffset < message.length
  idle : sender.connection = none → sender.currentOffset = 0
  carries : ∀ connection, sender.connection = some connection → sender.Carries connection
  whole : ∀ connection ∈ sender.closed, connection.Whole sender.pushed
  accounted : Accounted sender.resendTimes sender.discarded sender.freed sender.connections
  counted : sender.curResendTimes ≤ sender.interruptions

theorem Valid.start (resendTimes : Int) : (start resendTimes).Valid := by
  refine ⟨rfl,le_rfl,.inl rfl,fun _ => rfl,nofun,?_,⟨?_,?_,?_⟩,le_rfl⟩ <;> simp [Sender.start,connections]

variable {sender : Sender} {message : Bytes}

theorem Valid.drop_freed (valid : sender.Valid) (cur : sender.currentMessage = some message) :
    sender.pushed.drop sender.freed = message :: sender.pushed.drop (sender.freed + 1) := by
  have pending := valid.pending
  rw [cur,toList_some,singleton_append] at pending
  rw [← drop_drop,← pending,drop_one,tail_cons]

theorem Valid.freed_lt (valid : sender.Valid)
    (cur : sender.currentMessage = some message) : sender.freed < sender.pushed.length := by
  have length := congrArg length (valid.drop_freed cur)
  rw [length_cons,length_drop] at length
  omega

variable {connection : Connection}

section
variable (valid : sender.Valid)
include valid

theorem Valid.whole_open (opened : sender.connection = some connection) : connection.Whole sender.pushed := by
  obtain ⟨-,whole,split,count,bytes⟩ := valid.carries connection opened
  refine ⟨whole,_,sender.written,split,count,bytes,?_⟩
  rcases valid.offset with zero | ⟨message,cur,inside⟩
  · left
    rw [written,zero,take_zero]
  · right
    refine ⟨message,_,valid.drop_freed cur,?_,?_⟩
    · rw [written,cur]
      exact take_prefix _ _
    · intro same
      have length := congrArg length same
      rw [written,length_take] at length
      omega

theorem Valid.whole_all : ∀ connection ∈ sender.connections, connection.Whole sender.pushed := by
  intro connection mem
  rcases mem_append.mp mem with closed | opened
  · exact valid.whole connection closed
  · exact valid.whole_open (mem_toList.mp opened)

theorem Valid.intact : sender.Intact :=
  ⟨valid.whole_all,valid.accounted.once,valid.accounted.discards⟩

theorem Valid.push (message : Bytes) : (sender.step (.push message)).1.Valid := by
  obtain ⟨pending,bound,offset,idle,carries,whole,sums,counted⟩ := valid
  have grows : sender.freed ≤ (sender.pushed ++ [message]).length := by
    rw [length_append]
    omega
  have dropped (index : Nat) (small : index ≤ sender.freed) :
      (sender.pushed ++ [message]).drop index = sender.pushed.drop index ++ [message] :=
    drop_append_of_le_length (small.trans bound)
  refine ⟨?_,grows,offset,idle,?_,?_,sums,counted⟩
  · show sender.currentMessage.toList ++ (sender.sendQueue ++ [message]) = _
    rw [← append_assoc,pending,← dropped sender.freed le_rfl]
    rfl
  · intro connection opened
    obtain ⟨count,done,split,length,bytes⟩ := carries connection opened
    refine ⟨count,done,?_,length,bytes⟩
    show (sender.pushed ++ [message]).drop _ = done ++ (sender.pushed ++ [message]).drop sender.freed
    rw [dropped _ (by omega),dropped _ le_rfl,split,append_assoc]
  · intro connection mem
    have placed := sums.before connection (mem_append_left _ mem)
    exact (whole connection mem).push (by omega) message

theorem Valid.connect (unconnected : sender.connection = none) :
    {sender with connection := some ⟨sender.freed,0,[]⟩}.Valid := by
  obtain ⟨pending,bound,offset,idle,carries,whole,sums,counted⟩ := valid
  refine ⟨pending,bound,offset,nofun,?_,whole,?_,counted⟩
  · rintro connection ⟨rfl⟩
    refine ⟨rfl,[],rfl,rfl,?_⟩
    simp [written,idle unconnected]
  · have all : sender.connections = sender.closed := by simp [connections,unconnected]
    rw [all] at sums
    exact sums.opens

theorem Valid.getCurrentMessage : sender.getCurrentMessage.Valid := by
  unfold Sender.getCurrentMessage
  split
  · rename_i message rest none queue
    obtain ⟨pending,bound,offset,idle,carries,whole,sums,counted⟩ := valid
    have zero : sender.currentOffset = 0 := by
      rcases offset with zero | ⟨message,cur,-⟩
      · exact zero
      · rw [none] at cur
        cases cur
    refine ⟨?_,bound,.inl zero,idle,?_,whole,sums,counted⟩
    · rw [none,queue] at pending
      exact pending
    · intro connection opened
      obtain ⟨count,done,split,length,bytes⟩ := carries connection opened
      refine ⟨count,done,split,length,?_⟩
      simpa [written,zero] using bytes
  · exact valid

end

theorem take_add_taken {offset size : Nat} :
    message.take (offset + ((message.drop offset).take size).length) =
      message.take offset ++ (message.drop offset).take size := by
  rw [take_add,length_take,← take_eq_take_min]

theorem Valid.send (valid : sender.Valid)
    (opened : sender.connection = some connection) (current : sender.currentMessage = some message)
    (size : Nat) (short : (sender.send message size).currentOffset < message.length) :
    (sender.send message size).Valid := by
  obtain ⟨pending,bound,offset,idle,carries,whole,sums,counted⟩ := valid
  obtain ⟨count,done,split,length,bytes⟩ := carries connection opened
  refine ⟨pending,bound,.inr ⟨message,current,short⟩,?_,?_,whole,?_,counted⟩
  · simp [Sender.send,opened]
  · intro sent found
    simp only [Sender.send,opened,map_some,some.injEq] at found
    subst found
    refine ⟨count,done,split,length,?_⟩
    show connection.bytes ++ _ = done.flatten ++ (sender.currentMessage.getD []).take _
    rw [bytes,written,current,getD_some,append_assoc,← take_add_taken]
    rfl
  · rw [connections,opened] at sums
    have next := sums.advance count 0
      (connection.bytes ++ (message.drop sender.currentOffset).take (max 1 size))
    simpa [connections,Sender.send,opened] using next

theorem Valid.finish (valid : sender.Valid)
    (opened : sender.connection = some connection) (current : sender.currentMessage = some message)
    (size : Nat) (complete : ¬(sender.send message size).currentOffset < message.length) :
    (sender.send message size).finishCurrentMessage.Valid := by
  have dropped := valid.drop_freed current
  have larger := valid.freed_lt current
  obtain ⟨pending,bound,offset,idle,carries,whole,sums,counted⟩ := valid
  obtain ⟨count,done,split,length,bytes⟩ := carries connection opened
  refine ⟨?_,larger,.inl rfl,fun _ => rfl,?_,whole,?_,le_rfl⟩
  · rw [current,toList_some,dropped,singleton_append,cons.injEq] at pending
    exact pending.2
  · intro sent found
    simp only [Sender.send,finishCurrentMessage,opened,map_some,some.injEq] at found
    subst found
    refine ⟨?_,done ++ [message],?_,?_,?_⟩
    · show connection.first + (connection.completed + 1) = sender.freed + 1
      omega
    · show sender.pushed.drop connection.first = done ++ [message] ++ sender.pushed.drop (sender.freed + 1)
      rw [split,dropped,append_assoc,singleton_append]
    · show (done ++ [message]).length = connection.completed + 1
      rw [length_append,length,length_singleton]
    · show connection.bytes ++ _ = (done ++ [message]).flatten ++ ([] : Bytes).take 0
      have all : message.take sender.currentOffset ++
          (message.drop sender.currentOffset).take (max 1 size) = message := by
        rw [← take_add_taken]
        exact take_of_length_le (not_lt.mp complete)
      rw [bytes,written,current,getD_some,append_assoc,all]
      simp
  · rw [connections,opened] at sums
    have next := sums.advance count 1
      (connection.bytes ++ (message.drop sender.currentOffset).take (max 1 size))
    simpa [connections,Sender.send,finishCurrentMessage,freeCurrentMessage,opened] using next

theorem getCurrentMessage_connection : sender.getCurrentMessage.connection = sender.connection := by
  unfold getCurrentMessage
  split <;> rfl

theorem resetCurrentMessage_finish (cur : sender.currentMessage = some message) :
    sender.resetCurrentMessage true = sender.finishCurrentMessage := by
  rw [resetCurrentMessage,if_neg (by rw [cur]; exact some_ne_none message),if_pos rfl]

section
variable (valid : sender.Valid)
include valid

theorem Valid.doSendMessage (opened : sender.connection ≠ none)
    (ress : List SendResult) : (sender.doSendMessage ress).1.Valid := by
  induction ress generalizing sender with
  | nil =>
    have got := valid.getCurrentMessage
    unfold Sender.doSendMessage
    dsimp only
    split
    · exact got
    · split <;> exact got
  | cons res rest ih =>
    have got := valid.getCurrentMessage
    rw [← getCurrentMessage_connection] at opened
    unfold Sender.doSendMessage
    generalize sender.getCurrentMessage = sender at got opened ⊢
    obtain ⟨connection,attached⟩ := ne_none_iff_exists'.mp opened
    dsimp only
    split
    · exact got
    · rename_i message cur
      split
      · exact got
      · cases res with
        | wouldBlock | error => exact got
        | sent size =>
          dsimp only
          split_ifs with short
          · exact got.send attached cur size short
          · have finished := got.finish attached cur size short
            have same : (sender.send message size).currentMessage = some message := cur
            rw [resetCurrentMessage_finish same]
            exact ih finished (by simp [finishCurrentMessage,Sender.send,attached])

theorem Valid.closes {curResendTimes interruptions : Nat}
    (counted : curResendTimes ≤ interruptions) : {sender.senderReconnect with
      currentOffset := 0, curResendTimes := curResendTimes, interruptions := interruptions}.Valid := by
  refine ⟨valid.pending,valid.bound,.inl rfl,fun _ => rfl,nofun,valid.whole_all,?_,counted⟩
  have all : connections {sender.senderReconnect with
      currentOffset := 0, curResendTimes := curResendTimes, interruptions := interruptions} =
        sender.connections := append_nil _
  rw [all]
  exact valid.accounted

theorem Valid.discardCurrentMessage (unconnected : sender.connection = none)
    (cur : sender.currentMessage = some message) (limited : 0 ≤ sender.resendTimes)
    (exceeded : sender.resendTimes < sender.interruptions) : sender.discardCurrentMessage.Valid := by
  have dropped := valid.drop_freed cur
  have larger := valid.freed_lt cur
  obtain ⟨pending,bound,offset,idle,carries,whole,sums,counted⟩ := valid
  refine ⟨?_,larger,.inl rfl,fun _ => rfl,?_,whole,sums.discard limited exceeded,le_rfl⟩
  · rw [cur,toList_some,dropped,singleton_append,cons.injEq] at pending
    exact pending.2
  · intro connection opened
    have opened : sender.connection = some connection := opened
    rw [unconnected] at opened
    cases opened

theorem Valid.interrupted : (sender.interrupt.resetCurrentMessage false).senderReconnect.Valid := by
  have counted := valid.counted
  cases cur : sender.currentMessage with
  | none =>
    have zero : sender.currentOffset = 0 := by
      rcases valid.offset with zero | ⟨message,found,-⟩
      · exact zero
      · rw [cur] at found
        cases found
    have closed := valid.closes counted
    rw [interrupt,if_pos cur,resetCurrentMessage,if_pos cur]
    rw [← zero] at closed
    exact closed
  | some message =>
    have more : sender.currentMessage ≠ none := by rw [cur]; exact some_ne_none message
    rw [interrupt,if_neg more,resetCurrentMessage,if_neg more,if_neg Bool.false_ne_true]
    split_ifs with last
    · exact valid.closes (Nat.succ_le_succ counted)
    · have last : ¬(sender.resendTimes < 0) ∧ ¬((sender.curResendTimes : Int) < sender.resendTimes) := by
        simpa [needResend] using last
      have closed := valid.closes (counted.trans (Nat.le_succ _))
      refine closed.discardCurrentMessage rfl cur (Int.not_lt.mp last.1) ?_
      show sender.resendTimes < ((sender.interruptions + 1 : Nat) : Int)
      omega

theorem Valid.timeout (boundary : sender.currentOffset = 0) : sender.interrupt.senderReconnect.Valid := by
  unfold interrupt
  split
  · have closed := valid.closes valid.counted
    rw [← boundary] at closed
    exact closed
  · have closed := valid.closes (valid.counted.trans (Nat.le_succ _))
    rw [← boundary] at closed
    exact closed

theorem Valid.tryEvent (opened : sender.connection ≠ none) (event : Event) :
    (sender.tryEvent event).1.Valid := by
  cases event with
  | epollOut ress => exact valid.doSendMessage opened ress
  | _ => exact valid

theorem Valid.removed : {sender with removed := true}.Valid :=
  {valid with}

theorem Valid.onEvent (opened : sender.connection ≠ none) (event : Event) : (sender.onEvent event).Valid := by
  have tried := valid.tryEvent opened event
  unfold Sender.onEvent handleEpollEvent
  generalize sender.tryEvent event = answer at tried ⊢
  obtain ⟨sender,res⟩ := answer
  cases res with
  | epollClose => exact tried.interrupted
  | epollDestroy => exact tried.removed
  | _ => exact tried

theorem Valid.step {action : Action} (boundary : sender.AtBoundary action) :
    (sender.step action).1.Valid := by
  cases action with
  | push message => exact valid.push message
  | connect =>
    simp only [Sender.step]
    split_ifs with free
    · exact valid.connect free.1
    · exact valid
  | event event =>
    simp only [Sender.step]
    split_ifs with watched
    · have opened : sender.connection ≠ none := by
        rintro none
        simp [Sender.watched,none] at watched
      exact valid.onEvent opened event
    · exact valid
  | timeout confirmed =>
    simp only [Sender.step]
    split_ifs with watched
    · cases confirmed with
      | false => exact valid
      | true => exact valid.timeout (boundary watched)
    · exact valid

end

theorem intact_of_boundaries (resendTimes : Int) (actions : List Action)
    (boundaries : Run.Meets AtBoundary step (start resendTimes) actions) :
    (final step (start resendTimes) actions).Intact :=
  (invariant Valid (fun _ _ valid boundary => valid.step boundary) _ _ (.start resendTimes) boundaries).intact

theorem intact_of_boundaries_resent :
    Run.Meets AtBoundary step (start 1) [.push [1,2],.connect,.event (.epollOut [.sent 1]),
      .event .epollErr,.connect,
        .event (.epollOut [.sent 2]),.timeout true] ∧
      (final step (start 1) [.push [1,2],.connect,.event (.epollOut [.sent 1]),.event .epollErr,.connect,
        .event (.epollOut [.sent 2]),.timeout true]).Intact :=
  ⟨by decide +kernel,intact_of_boundaries _ _ (by decide +kernel)⟩

theorem timeout_splits_message :
    (final step (start 0) [.push [1,2],.connect,.event (.epollOut [.sent 1]),.timeout true,.connect,
      .event (.epollOut [.sent 1])]).connections = [⟨0,0,[1]⟩,⟨0,1,[2]⟩] ∧
    ¬(final step (start 0) [.push [1,2],.connect,.event (.epollOut [.sent 1]),.timeout true,.connect,
      .event (.epollOut [.sent 1])]).Intact := by
  refine ⟨by decide +kernel,fun intact => ?_⟩
  obtain ⟨whole,rest,part,split,count,bytes,-⟩ := intact.whole ⟨0,1,[2]⟩ (by decide +kernel)
  obtain ⟨message,rfl⟩ := length_eq_one_iff.mp count
  have pushed : (final step (start 0) [.push [1,2],.connect,.event (.epollOut [.sent 1]),
    .timeout true,.connect,
      .event (.epollOut [.sent 1])]).pushed = [[1,2]] := by decide +kernel
  rw [pushed] at split
  obtain ⟨rfl,-⟩ := cons.inj split
  cases bytes

end Sender

end Mooon.Dispatcher

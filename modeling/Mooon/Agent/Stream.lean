import Mooon.Agent.AgentThread
import Mooon.Segment
import Mathlib.Data.List.Nodup

/-! What the connections of an agent carry. The message in the send machine is the one that the
segment of the open connection has begun, and the cursor is what the segment has sent of it. -/
namespace Mooon.Agent
open List

/-- Every connection, closed or open, carries whole messages and a proper first part of the next
one. The messages begun on the connections, one connection after another, are those taken from the
queue, and all but the one being sent are deleted. -/
structure Streams (state : State) (closed : List (Segment Message)) (current : Segment Message) : Prop where
  closedBytes : state.closed = closed.map (Segment.bytes Message.bytes)
  openBytes : state.stream = current.bytes Message.bytes
  proper : ∀ segment ∈ current::closed, segment.Proper Message.bytes
  taken : state.taken = closed.flatMap Segment.messages ++ current.messages
  deleted : state.deleted = closed.flatMap Segment.messages ++ current.whole
  unconnected : state.established = false → current = .empty
  inOrder : state.taken ++ state.queue = state.accepted
  distinct : state.accepted.Nodup

/-- The same of a state within a step, where the message may have been sent to its end. -/
structure Carries (state : State) (closed : List (Segment Message)) (current : Segment Message) : Prop where
  closedBytes : state.closed = closed.map (Segment.bytes Message.bytes)
  openBytes : state.stream = current.bytes Message.bytes
  proper : ∀ segment ∈ closed, segment.Proper Message.bytes
  taken : state.taken = closed.flatMap Segment.messages ++ current.messages
  deleted : state.deleted = closed.flatMap Segment.messages ++ current.whole
  unconnected : state.established = false → current = .empty
  inOrder : state.taken ++ state.queue = state.accepted
  numbered : state.accepted.map Message.number = List.range state.accepted.length
  message : state.machine.message = current.next
  idle : current.next = none → state.machine = .idle
  cursor : ∀ message ∈ current.next,
    state.machine.cursor = current.sent ∧ current.sent + state.machine.remainSize = message.bytes.length

def Unfinished (state : State) : Prop := state.machine.message ≠ none → state.machine.remainSize ≠ 0

/-- The events of a batch are of different descriptors, and the connector has one when an event of
it is to come. -/
def Placed (state : State) : Prop :=
  match state.phase with
  | .connecting => True
  | .waiting => state.established = true
  | .handling batch =>
    (batch.map Event.source).Nodup ∧ (Source.connector ∈ batch.map Event.source → state.established = true)
  | .sending rest =>
    (rest.map Event.source).Nodup ∧ Source.connector ∉ rest.map Event.source ∧ state.established = true ∧
      state.machine.message = none

def Flowing (state : State) : Prop :=
  ∃ closed current, Carries state closed current ∧ Unfinished state ∧ Placed state

variable {state : State} {closed : List (Segment Message)} {current : Segment Message}

theorem length_bytes {msg : Message} : msg.bytes.length = headerSize + msg.packet.size.toNat := by
  have small := msg.packet.small
  simp only [Message.bytes,Packet.bytes,Packet.size,length_append,length_bytesOf,headerSize,
    UInt32.toNat_ofNat']
  omega

section
variable (carries : Carries state closed current)
include carries

theorem Carries.streams (unfinished : Unfinished state) : Streams state closed current := by
  refine {carries with proper := ?_, distinct := ?_}
  · apply forall_mem_cons.mpr ⟨?_,carries.proper⟩
    intro msg mem
    obtain ⟨-,size⟩ := carries.cursor msg mem
    have left := unfinished (by rw [carries.message,mem]; nofun)
    omega
  · apply List.Nodup.of_map Message.number
    rw [carries.numbered]
    exact nodup_range

theorem Carries.elsewhere (watch : Source → Watch) (phase : Phase) :
    Carries {state with watch, phase} closed current := by
  cases carries
  constructor <;> assumption

theorem Carries.reset (finished : state.machine.remainSize = 0) :
    Carries (reset state) closed current.finish := by
  have bytes : current.finish.bytes Message.bytes = current.bytes Message.bytes := by
    cases next : current.next with
    | none => simp [Segment.bytes,Segment.finish,Segment.messages,next]
    | some msg =>
      obtain ⟨-,size⟩ := carries.cursor msg next
      exact Segment.bytes_finish next (by omega)
  refine ⟨carries.closedBytes,?_,carries.proper,?_,?_,?_,carries.inOrder,carries.numbered,rfl,fun _ => rfl,?_⟩
  · rw [bytes]
    exact carries.openBytes
  · simpa [Agent.reset,Segment.finish,Segment.messages] using carries.taken
  · simp [Agent.reset,carries.deleted,carries.message,Segment.finish,Segment.messages]
  · intro unconnected
    rw [carries.unconnected unconnected]
    rfl
  · intro msg mem
    cases mem

theorem Carries.close (unfinished : Unfinished state) :
    ∃ closed current, Carries (close state) closed current ∧ (close state).machine.message = none := by
  unfold Agent.close
  split_ifs with held
  · refine ⟨closed ++ [current],.empty,⟨?_,rfl,?_,?_,?_,fun _ => rfl,carries.inOrder,carries.numbered,rfl,
      fun _ => rfl,nofun⟩,rfl⟩
    · simp [Agent.reset,carries.closedBytes,carries.openBytes]
    · intro segment mem
      have proper := (carries.streams unfinished).proper segment
      simp only [mem_append,mem_singleton] at mem
      exact proper (by simp [Or.comm.mp mem])
    · simpa [Agent.reset] using carries.taken
    · simp [Agent.reset,carries.deleted,carries.message,Segment.messages,Segment.empty]
  · refine ⟨closed,current,carries,?_⟩
    rw [carries.message,carries.unconnected (by simpa using held)]
    rfl

end

variable {msg : Message}

theorem Carries.sent (carries : Carries state closed current) (next : current.next = some msg)
    (size : Nat) (fits : size ≤ state.machine.remainSize) :
    Carries {state with
      machine := ⟨state.machine.message,state.machine.cursor + size,state.machine.remainSize - size⟩
      stream := state.stream ++ (rest state.machine).take size} closed (current.send size) := by
  obtain ⟨cursor,length⟩ := carries.cursor msg next
  have left : rest state.machine = msg.bytes.drop current.sent := by
    simp [rest,carries.message,next,cursor]
  refine {carries with openBytes := ?_, unconnected := ?_, idle := ?_, cursor := ?_}
  · rw [Segment.bytes_send next,left,carries.openBytes]
  · intro unconnected
    rw [carries.unconnected unconnected] at next
    cases next
  · intro none
    cases none.symm.trans next
  · intro other mem
    cases mem.symm.trans next
    simp only [Segment.send]
    omega

theorem continueSend_carries (carries : Carries state closed current)
    (next : current.next = some msg) {sent : Sent} :
    ∃ current after res, continueSend sent state = (after,res) ∧ Carries after closed current ∧
      after.established = state.established ∧ after.machine.message = some msg ∧
      (res = none ∧ after = state ∨ res = some (progress after)) := by
  have there := carries.message.trans next
  cases sent with
  | failed => exact ⟨current,state,none,rfl,carries,rfl,there,.inl ⟨rfl,rfl⟩⟩
  | wouldBlock => exact ⟨current,state,_,rfl,carries,rfl,there,.inr rfl⟩
  | bytes offered =>
    exact ⟨_,_,_,rfl,carries.sent next _ (Nat.min_le_right _ _),rfl,there,.inr rfl⟩

variable {succeeds : Bool} {source : Source} {next : State}

theorem setEvents_elsewhere {events : Events}
    (set : setEvents source events succeeds state = some next) : ∃ watch, next = {state with watch} := by
  unfold setEvents at set
  split_ifs at set <;> cases set
  · exact ⟨state.watch,rfl⟩
  · exact ⟨state.watch,rfl⟩
  · exact ⟨_,rfl⟩

theorem delEvents_elsewhere (deleted : delEvents source succeeds state = some next) :
    ∃ watch, next = {state with watch} := by
  unfold delEvents at deleted
  split_ifs at deleted <;> cases deleted
  · exact ⟨state.watch,rfl⟩
  · exact ⟨_,rfl⟩

theorem applyResult_connector {res : EpollEvent}
    (applied : applyResult .connector res succeeds state = some next) :
    (∃ watch, next = {state with watch}) ∨ ∃ watch, next = close {state with watch} := by
  cases res with
  | none =>
    cases applied
    exact .inl ⟨state.watch,rfl⟩
  | read | write | readWrite => exact .inl (setEvents_elsewhere applied)
  | remove => exact .inl (delEvents_elsewhere applied)
  | close =>
    obtain ⟨between,deleted,closes⟩ := Option.map_eq_some_iff.mp applied
    obtain ⟨watch,rfl⟩ := delEvents_elsewhere deleted
    exact .inr ⟨watch,closes.symm⟩

variable {rest : List Event}

theorem placed_after (nodup : (rest.map Event.source).Nodup)
    (opened : Source.connector ∈ rest.map Event.source → state.established = true) :
    Placed {state with phase := after rest} := by
  cases rest with
  | nil => trivial
  | cons event later => exact ⟨nodup,opened⟩

theorem unfinished_of_none (none : state.machine.message = none) : Unfinished state :=
  fun some => absurd none some

section
variable (carries : Carries state closed current)
include carries

theorem conclude_flowing (unfinished : Unfinished state)
    (nodup : (rest.map Event.source).Nodup) (alone : Source.connector ∉ rest.map Event.source)
    (res : EpollEvent) (succeeds : Bool) : Flowing (conclude .connector res succeeds rest state) := by
  unfold conclude
  cases applied : applyResult .connector res succeeds state with
  | none => exact ⟨closed,current,carries.elsewhere _ _,unfinished,trivial⟩
  | some next =>
    have placed : Placed {next with phase := after rest} := placed_after nodup fun mem => absurd mem alone
    rcases applyResult_connector applied with ⟨watch,rfl⟩ | ⟨watch,rfl⟩
    · exact ⟨closed,current,carries.elsewhere _ _,unfinished,placed⟩
    · obtain ⟨closed,current,carries,none⟩ := (carries.elsewhere watch state.phase).close unfinished
      exact ⟨closed,current,carries.elsewhere _ _,unfinished_of_none none,placed⟩

variable {sent : Sent} {control : Control}

theorem sentOne_flowing (unfinished : Unfinished state)
    (held : state.established = true) (next : current.next = some msg)
    (nodup : (rest.map Event.source).Nodup) (alone : Source.connector ∉ rest.map Event.source)
    {control : Control} : Flowing (sentOne control rest (continueSend sent state)) := by
  obtain ⟨current,after,res,continued,carries,same,there,outcome⟩ := continueSend_carries carries next
  rw [continued]
  rcases outcome with ⟨rfl,rfl⟩ | rfl
  · exact conclude_flowing carries unfinished nodup alone _ _
  · by_cases finished : after.machine.remainSize = 0
    · have ends : progress after = .finish := by simp [progress,SendMachine.isFinish,finished]
      rw [ends]
      exact ⟨closed,current.finish,(carries.reset finished).elsewhere _ _,unfinished_of_none rfl,
        nodup,alone,same.trans held,rfl⟩
    · have goesOn : progress after = .goesOn := by simp [progress,SendMachine.isFinish,finished]
      rw [goesOn]
      exact conclude_flowing carries (fun _ => finished) nodup alone _ _

theorem beginOutput_flowing (unfinished : Unfinished state)
    (held : state.established = true) (nodup : (rest.map Event.source).Nodup)
    (alone : Source.connector ∉ rest.map Event.source) : Flowing (beginOutput sent control rest state) := by
  unfold beginOutput
  split_ifs with finished
  · have empty : state.machine.remainSize = 0 := by simpa [SendMachine.isFinish] using finished
    exact ⟨closed,current.finish,(carries.reset empty).elsewhere _ _,unfinished_of_none rfl,
      nodup,alone,held,rfl⟩
  · cases next : current.next with
    | none => exact absurd (by rw [carries.idle next]; rfl) finished
    | some msg => exact sentOne_flowing carries unfinished held next nodup alone

theorem Carries.take (idle : current.next = none)
    (held : state.established = true) {queue : List Message}
    (first : state.queue = msg::queue) :
    Carries {state with
      queue, taken := state.taken ++ [msg]
      machine := ⟨some msg,0,headerSize + msg.packet.size.toNat⟩} closed (current.start msg) := by
  refine ⟨carries.closedBytes,?_,carries.proper,?_,carries.deleted,?_,?_,carries.numbered,rfl,nofun,?_⟩
  · rw [Segment.bytes_start idle]
    exact carries.openBytes
  · rw [Segment.messages_start idle,← append_assoc,← carries.taken]
  · intro unconnected
    exact Bool.noConfusion (unconnected.symm.trans held)
  · rw [append_assoc,singleton_append,← first]
    exact carries.inOrder
  · rintro other ⟨⟩
    exact ⟨rfl,by rw [length_bytes]; exact Nat.zero_add _⟩

theorem sendNext_flowing (idle : state.machine.message = none)
    (held : state.established = true) (nodup : (rest.map Event.source).Nodup)
    (alone : Source.connector ∉ rest.map Event.source) : Flowing (sendNext sent control rest state) := by
  unfold sendNext
  split
  · split
    · rename_i next set
      obtain ⟨watch,rfl⟩ := setEvents_elsewhere set
      exact conclude_flowing (carries.elsewhere watch state.phase) (unfinished_of_none idle) nodup alone _ _
    · exact conclude_flowing carries (unfinished_of_none idle) nodup alone _ _
  · rename_i msg queue first
    have taken := carries.take (carries.message.symm.trans idle) held first
    exact sentOne_flowing taken (fun _ => by simp [headerSize]) held rfl nodup alone

theorem handleQueue_flowing (unfinished : Unfinished state) (nodup : (rest.map Event.source).Nodup)
    (opened : Source.connector ∈ rest.map Event.source → state.established = true) :
    Flowing (handleQueue control rest state) := by
  unfold handleQueue
  split
  · rename_i next set
    obtain ⟨watch,rfl⟩ := setEvents_elsewhere set
    unfold conclude
    split
    · rename_i removed
      obtain ⟨watch,rfl⟩ := delEvents_elsewhere removed
      exact ⟨closed,current,carries.elsewhere _ _,unfinished,placed_after nodup opened⟩
    · exact ⟨closed,current,carries.elsewhere _ _,unfinished,trivial⟩
  · exact ⟨closed,current,carries.elsewhere _ _,unfinished,trivial⟩

theorem handleEvent_flowing (unfinished : Unfinished state)
    {event : Event} (nodup : ((event::rest).map Event.source).Nodup)
    (opened : Source.connector ∈ (event::rest).map Event.source → state.established = true) {got : Received} :
    Flowing (handleEvent got sent control rest state event) := by
  obtain ⟨absent,others⟩ := nodup_cons.mp nodup
  cases event with
  | queue =>
    exact handleQueue_flowing carries unfinished others (fun later => opened (mem_cons_of_mem _ later))
  | connector events =>
    have held := opened mem_cons_self
    simp only [handleEvent,handleConnector]
    split_ifs
    · exact conclude_flowing carries unfinished others absent _ _
    · exact beginOutput_flowing carries unfinished held others absent
    · exact conclude_flowing carries unfinished others absent _ _

theorem Carries.put (queueSize : Nat) (packet : Packet) :
    Carries (putMessage queueSize packet state) closed current := by
  unfold putMessage
  split_ifs
  · refine {carries with inOrder := ?_, numbered := ?_}
    · rw [← append_assoc,carries.inOrder]
    · rw [map_append,carries.numbered,length_append,length_singleton,range_succ]
      rfl
  · exact carries

theorem put_flowing (unfinished : Unfinished state) (placed : Placed state)
    {queueSize : Nat} {packet : Packet} : Flowing (putMessage queueSize packet state) := by
  refine ⟨closed,current,carries.put queueSize packet,?_,?_⟩
  · unfold putMessage
    split_ifs <;> exact unfinished
  · unfold putMessage
    split_ifs <;> exact placed

theorem Carries.connect (watch : Source → Watch)
    (phase : Phase) : Carries {state with established := true, watch, phase} closed current := by
  cases carries
  constructor <;> first | assumption | nofun

theorem connectCenter_flowing (unfinished : Unfinished state)
    (placed : Placed state) {made : Bool} : Flowing (connectCenter made control state) := by
  simp only [connectCenter]
  split_ifs with established
  · exact ⟨closed,current,carries.elsewhere _ _,unfinished,established⟩
  · cases set : setEvents .connector epollInOut control.first
      {state with established := true, phase := .waiting} with
    | none => exact ⟨closed,current,carries.connect _ _,unfinished,rfl⟩
    | some next =>
      obtain ⟨watch,rfl⟩ := setEvents_elsewhere set
      exact ⟨closed,current,carries.connect _ _,unfinished,rfl⟩
  · exact ⟨closed,current,carries,unfinished,placed⟩

end

variable (queueSize : Nat)

theorem step_flowing (state : State) (act : Action) (flowing : Flowing state) :
    Flowing (step queueSize state act).1 := by
  obtain ⟨closed,current,carries,unfinished,placed⟩ := flowing
  have moved := step_moves queueSize state act
  generalize (step queueSize state act).1 = next at moved ⊢
  cases moved with
  | rests => exact ⟨closed,current,carries,unfinished,placed⟩
  | puts packet => exact put_flowing carries unfinished placed
  | connects made control => exact connectCenter_flowing carries unfinished placed
  | timesOut heartbeat =>
    obtain ⟨closed,current,carries,unfinished,-⟩ := put_flowing carries unfinished placed
    exact ⟨closed,current,carries.elsewhere _ _,unfinished,trivial⟩
  | reports batch phase nodup =>
    rw [Placed,phase] at placed
    exact ⟨closed,current,carries.elsewhere _ _,unfinished,nodup,fun _ => placed⟩
  | handles got sent control event rest phase =>
    rw [Placed,phase] at placed
    exact handleEvent_flowing carries unfinished placed.1 placed.2
  | sends sent control rest phase =>
    rw [Placed,phase] at placed
    obtain ⟨nodup,alone,held,idle⟩ := placed
    exact sendNext_flowing carries idle held nodup alone

theorem started_flowing : Flowing .started := by
  refine ⟨[],.empty,⟨rfl,rfl,nofun,rfl,rfl,fun _ => rfl,rfl,rfl,rfl,fun _ => rfl,nofun⟩,?_,trivial⟩
  exact unfinished_of_none rfl

theorem sends_whole (queueSize : Nat) (actions : List Action) :
    ∃ closed current, Streams (Run.final (step queueSize) .started actions) closed current := by
  obtain ⟨closed,current,carries,unfinished,-⟩ :=
    Run.always Flowing _ actions (fun state action _ => step_flowing queueSize state action) started_flowing
  exact ⟨closed,current,carries.streams unfinished⟩

end Mooon.Agent

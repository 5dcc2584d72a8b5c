import Mooon.Dispatcher.Life

/-! The life of each sender in a run of the send thread. Each operation of the thread on one
sender is an operation on that sender's life and leaves the lives of the others as they are. -/
namespace Mooon.Dispatcher.SendThread
open Life Function

def life (thread : SendThread) (sender : Nat) : Life where
  unconnected := thread.unconnectedQueue.count sender
  reconnecting := thread.reconnectQueue.count sender
  timed := decide (sender ∈ thread.timeouts)
  connected := (thread.senders sender).connected
  registered := (thread.senders sender).registered
  queueRegistered := (thread.senders sender).queueRegistered
  removals := (thread.senders sender).removals
  destroyed := (thread.senders sender).destroyed
  calledAfter := (thread.senders sender).calledAfter
  socketPending := thread.batch.count (.sender sender)
  queuePending := thread.batch.count (.sendQueue sender)

section
variable (thread : SendThread) (sender : Nat)

theorem life_update {change : SenderState → SenderState} :
    (thread.update sender change).life = Function.update thread.life sender
      {thread.life sender with
        connected := (change (thread.senders sender)).connected
        registered := (change (thread.senders sender)).registered
        queueRegistered := (change (thread.senders sender)).queueRegistered
        removals := (change (thread.senders sender)).removals
        destroyed := (change (thread.senders sender)).destroyed
        calledAfter := (change (thread.senders sender)).calledAfter} := by
  funext other
  by_cases same : other = sender
  · subst same
    simp only [life,update,update_self]
    rfl
  · simp only [life,update,update_of_ne same]
    rfl

theorem life_setEvents : (thread.setEvents sender).life = Function.update thread.life sender
    {thread.life sender with
      registered := (thread.life sender).registered || (thread.life sender).connected} :=
  thread.life_update sender

theorem life_delEvents : (thread.delEvents sender).life = Function.update thread.life sender
    {thread.life sender with
      registered := (thread.life sender).registered && !(thread.life sender).connected} :=
  thread.life_update sender

theorem life_setQueueEvents : (thread.setQueueEvents sender).life =
    Function.update thread.life sender {thread.life sender with queueRegistered := true} :=
  thread.life_update sender

theorem life_delQueueEvents : (thread.delQueueEvents sender).life =
    Function.update thread.life sender {thread.life sender with queueRegistered := false} :=
  thread.life_update sender

theorem life_close : (thread.close sender).life =
    Function.update thread.life sender {thread.life sender with connected := false, registered := false} :=
  thread.life_update sender

theorem life_setConnectedState : (thread.setConnectedState sender).life = thread.life := by
  rw [setConnectedState,life_update]
  split <;> exact update_eq_self sender thread.life

theorem life_removeTimeout : (thread.removeTimeout sender).life =
    Function.update thread.life sender {thread.life sender with timed := false} := by
  funext other
  by_cases same : other = sender <;> simp [life,removeTimeout,update,same]

theorem life_pushTimeout : (thread.pushTimeout sender).life =
    Function.update thread.life sender {thread.life sender with timed := true} := by
  funext other
  by_cases same : other = sender <;> simp [life,pushTimeout,update,same]

theorem life_pushReconnect :
    {thread with reconnectQueue := thread.reconnectQueue ++ [sender]}.life =
      Function.update thread.life sender
      {thread.life sender with reconnecting := (thread.life sender).reconnecting + 1} := by
  funext other
  by_cases same : other = sender
  · simp [life,same]
  · simp [life,same,Ne.symm same]

theorem life_senderReconnect :
    (thread.senderReconnect sender).life =
      Function.update thread.life sender (thread.life sender).reconnect := by
  rw [senderReconnect,life_pushReconnect,life_removeTimeout,life_delEvents,life_close]
  simp [Life.reconnect]

theorem life_senderConnect {res : ConnectResult} : (thread.senderConnect sender res).life =
      Function.update thread.life sender ((thread.life sender).connect res) := by
  cases res with
  | failed =>
    rw [senderConnect,life_senderReconnect,asyncConnect,life_update,update_idem,update_self]
    rfl
  | established | inProgress =>
    simp only [senderConnect,asyncConnect,life_pushTimeout,life_setEvents,life_update,update_idem,
      update_self,Bool.or_true]
    rfl

theorem life_removeSender {last : Bool} : (thread.removeSender sender last).life =
    Function.update thread.life sender ((thread.life sender).remove last) := by
  have closed (thread : SendThread) :
      (thread.closeSender sender last).life = Function.update thread.life sender
      (if last then {thread.life sender with
        removals := (thread.life sender).removals + 1, destroyed := true, connected := false,
        registered := false, queueRegistered := false}
      else {thread.life sender with removals := (thread.life sender).removals + 1}) := by
    rw [closeSender,life_update]
    cases last <;> rfl
  rw [removeSender,closed,life_removeTimeout,life_delEvents]
  cases last <;> simp [Life.remove]

theorem life_senderEvent {answer : Answer} {last : Bool} : (thread.senderEvent sender answer last).life =
    Function.update thread.life sender ((thread.life sender).socketEvent answer last) := by
  rw [Life.socketEvent]
  change (if (thread.life sender).destroyed then _ else _ : SendThread).life = _
  split
  · exact thread.life_update sender
  · cases answer with
    | received => simp [handleSenderEvent,epollEventProc,Life.answer,life_removeTimeout,life_pushTimeout]
    | sentAll | sentPart =>
      simp [handleSenderEvent,epollEventProc,Life.answer,life_removeTimeout,life_pushTimeout,life_setEvents,
        life_setQueueEvents,life_setConnectedState]
    | failed writable =>
      simp only [handleSenderEvent,epollEventProc,life_senderReconnect]
      cases writable <;> simp [Life.answer,Life.reconnect,life_removeTimeout,life_setConnectedState]
    | released =>
      simp only [handleSenderEvent,epollEventProc,life_removeSender,life_removeTimeout,update_idem,
        update_self]
      cases last <;> rfl

theorem life_queueEvent :
    (thread.queueEvent sender).life = Function.update thread.life sender (thread.life sender).queueEvent := by
  rw [Life.queueEvent]
  change (if (thread.life sender).destroyed then _ else _ : SendThread).life = _
  split
  · exact thread.life_update sender
  · simp [life_delQueueEvents,life_setEvents]

end

structure Moved (Release : Life → Bool → Prop) (Notify : Life → Prop) (before after : SendThread) : Prop where
  batch : after.batch = before.batch
  added : after.added = before.added
  moves : ∀ sender, Moves Release Notify (before.life sender) (after.life sender)

section
variable {Release : Life → Bool → Prop} {Notify : Life → Prop} (thread : SendThread)

theorem Moved.refl : Moved Release Notify thread thread := ⟨rfl,rfl,fun _ => .refl⟩

theorem Moved.trans {first second third : SendThread} (one : Moved Release Notify first second)
    (two : Moved Release Notify second third) : Moved Release Notify first third :=
  ⟨two.batch.trans one.batch,two.added.trans one.added,
    fun sender => (one.moves sender).trans (two.moves sender)⟩

variable {sender : Nat} {new : Life}

theorem moves_of_update {before after : Nat → Life}
    (acts : after = Function.update before sender new)
    (move : Move Release Notify (before sender) new) (other : Nat) :
    Moves Release Notify (before other) (after other) := by
  by_cases same : other = sender
  · subst same
    rw [acts,update_self]
    exact .single move
  · rw [acts,update_of_ne same]

theorem Moved.one {before after : SendThread} (batch : after.batch = before.batch)
    (added : after.added = before.added) (acts : after.life = Function.update before.life sender new)
    (move : Move Release Notify (before.life sender) new) : Moved Release Notify before after :=
  ⟨batch,added,moves_of_update acts move⟩

theorem Moved.iterate {front : SendThread → SendThread}
    (each : ∀ thread, thread.batch = [] → Moved Release Notify thread (front thread)) (count : Nat)
    (thread : SendThread) (idle : thread.batch = []) :
    Moved Release Notify thread (front^[count] thread) := by
  induction count generalizing thread with
  | zero => exact .refl thread
  | succ count ih =>
    have first := each thread idle
    exact first.trans (ih (front thread) (first.batch.trans idle))

theorem life_idle {thread : SendThread} (idle : thread.batch = []) :
    (thread.life sender).socketPending = 0 ∧ (thread.life sender).queuePending = 0 := by
  simp [life,idle]

variable {res : ConnectResult}

@[simp] theorem senderConnect_batch :
    (thread.senderConnect sender res).batch = thread.batch := by cases res <;> rfl

@[simp] theorem senderConnect_added :
    (thread.senderConnect sender res).added = thread.added := by cases res <;> rfl

variable {sender : Nat} {rest : List Nat}

theorem life_popUnconnected {thread : SendThread} (queue : thread.unconnectedQueue = sender::rest) :
    {thread with unconnectedQueue := rest}.life = Function.update thread.life sender
      {thread.life sender with unconnected := (thread.life sender).unconnected - 1} := by
  refine eq_update_iff.mpr ⟨by simp [life,queue],fun other others => ?_⟩
  simp [life,queue,others.symm]

theorem life_popReconnect {thread : SendThread} (queue : thread.reconnectQueue = sender::rest) :
    {thread with reconnectQueue := rest}.life = Function.update thread.life sender
      {thread.life sender with reconnecting := (thread.life sender).reconnecting - 1} := by
  refine eq_update_iff.mpr ⟨by simp [life,queue],fun other others => ?_⟩
  simp [life,queue,others.symm]

theorem life_popTimeout : {thread with timeouts := thread.timeouts.remove sender}.life =
    Function.update thread.life sender {thread.life sender with timed := false} := by
  funext other
  by_cases same : other = sender <;> simp [life,same]

variable {res : Nat → ConnectResult}

theorem connectFront_moved {thread : SendThread} : Moved Release Notify thread (connectFront res thread) := by
  unfold connectFront
  split
  · exact .refl thread
  · rename_i sender rest queue
    refine .one (by simp) (by simp) ?_ (.connect (thread.life sender) (res sender) (by simp [life,queue]))
    rw [life_senderConnect,life_popUnconnected queue,update_idem,update_self]

variable (free : ∀ life last, life.queuePending = 0 → Release life last)
include free

theorem reconnectFront_moved (res : Nat → ConnectResult) (last : Nat → Bool) (thread : SendThread)
    (idle : thread.batch = []) : Moved Release Notify thread (reconnectFront res last thread) := by
  unfold reconnectFront
  split
  · exact .refl thread
  · rename_i sender rest queue
    have waiting : 0 < (thread.life sender).reconnecting := by simp [life,queue]
    split
    · refine .one rfl rfl ?_ (.giveUp _ (last sender) waiting (free _ _ (life_idle idle).2))
      rw [life_removeSender,life_popReconnect queue,update_idem,update_self]
    · refine .one (by simp) (by simp) ?_ (.retry _ (res sender) waiting)
      rw [life_senderConnect,life_popReconnect queue,update_idem,update_self]

omit free in
theorem timeoutFront_moved (confirmed : Nat → Bool) (thread : SendThread) (idle : thread.batch = []) :
    Moved Release Notify thread (timeoutFront confirmed thread) := by
  unfold timeoutFront
  split
  · exact .refl thread
  · rename_i sender front
    have timed : (thread.life sender).timed = true := decide_eq_true (Queue.mem_of_front front)
    split
    · unfold onTimeoutEvent
      split
      · refine .one rfl rfl ?_ (.timeout _ timed (life_idle idle).1)
        rw [life_senderReconnect,life_popTimeout,update_idem,update_self]
        rfl
      · refine ⟨rfl,rfl,fun other => ?_⟩
        rw [life_pushTimeout,life_removeTimeout,life_popTimeout]
        simp only [update_idem,update_self,← timed]
        rw [update_eq_self]
    · exact .refl thread

section
variable (last : Nat → Bool)

section
variable (thread : SendThread)

section
variable (idle : thread.batch = [])
include idle

theorem clearUnconnectedFront_moved :
    Moved Release Notify thread (clearUnconnectedFront last thread) := by
  unfold clearUnconnectedFront
  split
  · exact .refl thread
  · rename_i sender rest queue
    have waiting : 0 < (thread.life sender).unconnected := by simp [life,queue]
    refine .one rfl rfl ?_ (.clear _ (last sender) waiting (free _ _ (life_idle idle).2))
    rw [life_removeSender,life_popUnconnected queue,update_idem,update_self]

theorem clearReconnectFront_moved :
    Moved Release Notify thread (clearReconnectFront last thread) := by
  unfold clearReconnectFront
  split
  · exact .refl thread
  · rename_i sender rest queue
    have waiting : 0 < (thread.life sender).reconnecting := by simp [life,queue]
    refine .one rfl rfl ?_ (.giveUp _ (last sender) waiting (free _ _ (life_idle idle).2))
    rw [life_removeSender,life_popReconnect queue,update_idem,update_self]

theorem clearTimeoutFront_moved :
    Moved Release Notify thread (clearTimeoutFront last thread) := by
  unfold clearTimeoutFront
  split
  · exact .refl thread
  · rename_i sender front
    have timed := decide_eq_true (Queue.mem_of_front front)
    obtain ⟨socket,queue⟩ := life_idle idle
    refine .one rfl rfl ?_ (.clearTimed _ (last sender) timed socket (free _ _ queue))
    rw [life_removeSender,life_popTimeout,update_idem,update_self]

end

end

end

theorem checkReconnectQueue_moved {last : Nat → Bool} {thread : SendThread}
    (idle : thread.batch = []) : Moved Release Notify thread (thread.checkReconnectQueue res last) := by
  unfold checkReconnectQueue
  split
  · exact .refl thread
  · have timed : Moved Release Notify thread {thread with lastConnectTime := thread.currentTime} :=
      ⟨rfl,rfl,fun _ => .refl⟩
    exact timed.trans (.iterate (reconnectFront_moved free res last) _ _ idle)

theorem afterRun_moved (last : Nat → Bool) (thread : SendThread) (idle : thread.batch = []) :
    Moved Release Notify thread (thread.afterRun last) := by
  unfold afterRun
  dsimp only
  have one : Moved Release Notify thread
      ((clearUnconnectedFront last)^[thread.unconnectedQueue.length] thread) :=
    .iterate (clearUnconnectedFront_moved free last) _ thread idle
  generalize (clearUnconnectedFront last)^[thread.unconnectedQueue.length] thread = first at one ⊢
  have two := one.trans (.iterate (clearReconnectFront_moved free last) first.reconnectQueue.length first
    (one.batch.trans idle))
  generalize (clearReconnectFront last)^[first.reconnectQueue.length] first = second at two ⊢
  exact two.trans (.iterate (clearTimeoutFront_moved free last) _ second (two.batch.trans idle))

omit free in
theorem life_popBatch_sender {thread : SendThread} {rest : List Epollable}
    (batch : thread.batch = .sender sender::rest) :
    {thread with batch := rest}.life = Function.update thread.life sender
      {thread.life sender with socketPending := (thread.life sender).socketPending - 1} := by
  refine eq_update_iff.mpr ⟨by simp [life,batch],fun other others => ?_⟩
  simp [life,batch,others.symm]

omit free in
theorem life_popBatch_queue {thread : SendThread} {rest : List Epollable}
    (batch : thread.batch = .sendQueue sender::rest) :
    {thread with batch := rest}.life = Function.update thread.life sender
      {thread.life sender with queuePending := (thread.life sender).queuePending - 1} := by
  refine eq_update_iff.mpr ⟨by simp [life,batch],fun other others => ?_⟩
  simp [life,batch,others.symm]

omit free in
@[simp] theorem handleEvent_added (answer : Answer) (last : Bool) :
    (thread.handleEvent answer last).added = thread.added := by
  unfold handleEvent
  split
  · rfl
  · rfl
  · unfold senderEvent
    split
    · rfl
    · cases answer with
      | failed writable => cases writable <;> rfl
      | _ => rfl
  · unfold queueEvent
    split <;> rfl

omit free in
theorem handleEvent_moves {thread : SendThread} {answer : Answer} {last : Bool}
    (release : answer = .released → ∀ sender rest, thread.batch = .sender sender::rest →
      Release (thread.life sender) last)
    (notify : ∀ sender rest, thread.batch = .sendQueue sender::rest → Notify (thread.life sender))
    (other : Nat) :
    Moves Release Notify (thread.life other) ((thread.handleEvent answer last).life other) := by
  unfold handleEvent
  split
  · exact .refl
  · rename_i rest batch
    have same : {thread with batch := rest}.life other = thread.life other := by simp [life,batch]
    rw [same]
  · rename_i sender rest batch
    have pending : 0 < (thread.life sender).socketPending := by simp [life,batch]
    refine moves_of_update ?_
      (.socketEvent _ answer last pending fun released => release released _ _ batch) _
    rw [life_senderEvent,life_popBatch_sender batch,update_idem,update_self]
  · rename_i sender rest batch
    have pending : 0 < (thread.life sender).queuePending := by simp [life,batch]
    refine moves_of_update ?_ (.queueEvent _ pending (notify _ _ batch)) _
    rw [life_queueEvent,life_popBatch_queue batch,update_idem,update_self]

omit free in
theorem wait_moves {thread : SendThread} {ready : List Epollable} (allowed : thread.Ready ready)
    (sender : Nat) :
    Moves Release Notify (thread.life sender) ({thread with batch := ready}.life sender) := by
  refine .single (.wait _ (ready.count (.sender sender)) (ready.count (.sendQueue sender)) ?_ ?_ ?_)
  · exact List.nodup_iff_count_le_one.mp allowed.1 _
  · intro pos
    exact allowed.2 _ (List.count_pos_iff.mp pos)
  · intro pos
    exact allowed.2 _ (List.count_pos_iff.mp pos)

theorem step_moves {thread : SendThread} {act : Action}
    (release : ∀ last sender rest, act = .event .released last → thread.batch = .sender sender::rest →
      Release (thread.life sender) last)
    (notify : ∀ answer last sender rest, act = .event answer last → thread.batch = .sendQueue sender::rest →
      Notify (thread.life sender)) (old : ∀ maxReconnectTimes, act ≠ .addSender maxReconnectTimes) :
    (thread.step act).1.added = thread.added ∧
      ∀ sender, Moves Release Notify (thread.life sender) ((thread.step act).1.life sender) := by
  have checked {later : SendThread} (moved : thread.batch = [] → Moved Release Notify thread later) :
      (thread.between later).added = thread.added ∧
        ∀ sender, Moves Release Notify (thread.life sender) ((thread.between later).life sender) := by
    unfold between
    split_ifs with idle
    · exact ⟨(moved idle).added,(moved idle).moves⟩
    · exact ⟨rfl,fun _ => .refl⟩
  cases act with
  | addSender maxReconnectTimes => exact absurd rfl (old maxReconnectTimes)
  | setReconnectTimes other maxReconnectTimes =>
    refine ⟨rfl,fun sender => ?_⟩
    have same : (thread.update other
        (fun state => {state with maxReconnectTimes := maxReconnectTimes})).life =
        thread.life := (thread.life_update other).trans (update_eq_self other thread.life)
    exact congrFun same sender ▸ .refl
  | setTime currentTime => exact checked (fun _ => ⟨rfl,rfl,fun _ => .refl⟩)
  | checkReconnectQueue res last => exact checked (checkReconnectQueue_moved free)
  | checkUnconnectedQueue res =>
    exact checked (fun idle => .iterate (fun thread _ => connectFront_moved) _ thread idle)
  | checkTimeout confirmed =>
    refine checked (fun idle => ?_)
    unfold checkTimeout
    split
    · exact .refl thread
    · exact .iterate (timeoutFront_moved confirmed) _ thread idle
  | wait ready =>
    simp only [step,between]
    split
    · split_ifs with allowed
      · exact ⟨rfl,wait_moves allowed⟩
      · exact ⟨rfl,fun _ => .refl⟩
    · exact ⟨rfl,fun _ => .refl⟩
  | event answer last =>
    exact ⟨handleEvent_added thread answer last,handleEvent_moves
      (fun released sender rest => release last sender rest (by rw [released]))
      (fun sender rest => notify answer last sender rest rfl)⟩

end

structure Covers (holds : Life → Prop) (thread : SendThread) : Prop where
  added : ∀ sender < thread.added, holds (thread.life sender)
  absent : ∀ sender, thread.added ≤ sender → thread.life sender = .absent

theorem Covers.start (holds : Life → Prop) (timeoutSeconds reconnectSeconds : Nat) :
    Covers holds (start timeoutSeconds reconnectSeconds) := by
  refine ⟨fun sender small => absurd small (Nat.not_lt_zero sender),fun sender _ => ?_⟩
  simp [life,SendThread.start,SenderState.new,Life.absent]

variable {holds : Life → Prop} {thread : SendThread}

theorem Covers.addSender (covers : Covers holds thread)
    (fresh : holds .fresh) (maxReconnectTimes : Int) : Covers holds (thread.addSender maxReconnectTimes) := by
  have others {sender : Nat} (nodup : sender ≠ thread.added) :
      (thread.addSender maxReconnectTimes).life sender = thread.life sender := by
    simp [life,SendThread.addSender,update,nodup,nodup.symm]
    rfl
  have newest : (thread.addSender maxReconnectTimes).life thread.added = .fresh := by
    have absent := covers.absent thread.added le_rfl
    simp only [life,Life.absent,Life.mk.injEq] at absent
    simp [life,SendThread.addSender,update,SenderState.new,Life.fresh,Life.absent,absent]
    exact absent.2.2.1
  refine ⟨fun sender small => ?_,fun sender large => ?_⟩
  · by_cases same : sender = thread.added
    · rw [same,newest]
      exact fresh
    · rw [others same]
      exact covers.added sender (Nat.lt_of_le_of_ne (Nat.le_of_lt_succ small) same)
  · have large : thread.added + 1 ≤ sender := large
    rw [others (by omega)]
    exact covers.absent sender (by omega)

theorem Covers.step {Release : Life → Bool → Prop} {Notify : Life → Prop}
    (free : ∀ life last, life.queuePending = 0 → Release life last) (fresh : holds .fresh)
    (preserved : ∀ before after, holds before → Move Release Notify before after → holds after)
    {act : Action} (covers : Covers holds thread)
    (release : ∀ last sender rest, act = .event .released last → thread.batch = .sender sender::rest →
      Release (thread.life sender) last)
    (notify : ∀ answer last sender rest, act = .event answer last → thread.batch = .sendQueue sender::rest →
      Notify (thread.life sender)) : Covers holds (thread.step act).1 := by
  by_cases adds : ∃ maxReconnectTimes, act = .addSender maxReconnectTimes
  · obtain ⟨maxReconnectTimes,rfl⟩ := adds
    exact covers.addSender fresh maxReconnectTimes
  · obtain ⟨added,moves⟩ := step_moves free release notify (fun maxReconnectTimes same => adds ⟨_,same⟩)
    refine ⟨fun sender small => ?_,fun sender large => ?_⟩
    · exact (moves sender).invariant holds preserved (covers.added sender (added ▸ small))
    · have moved := moves sender
      rw [covers.absent sender (added ▸ large)] at moved
      exact moved.absent

end Mooon.Dispatcher.SendThread

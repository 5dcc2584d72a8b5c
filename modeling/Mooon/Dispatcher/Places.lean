import Mooon.Dispatcher.Projection

/-! The senders of a send thread: none is called after it is gone, and each has one place until
it is removed, once. `remove_sender` takes the socket of a sender out of the epoll set but not
its send queue, so both need a condition on the events of the send queue. -/
namespace Mooon.Dispatcher.SendThread
open Life List Run

/-- A release that gives back the last reference of a sender finds no event of its send queue
in the rest of the batch. -/
def ReleasesUnqueued (thread : SendThread) : Action → Prop
  | .event .released true => match thread.batch with
    | .sender sender::rest => .sendQueue sender ∉ rest
    | _ => True
  | _ => True

instance (thread : SendThread) (action : Action) : Decidable (thread.ReleasesUnqueued action) := by
  unfold ReleasesUnqueued
  split
  · split <;> infer_instance
  · infer_instance

variable {reconnectSeconds : Nat} {actions : List Action} {timeoutSeconds : Nat}

theorem covers_safe
    (unqueued : Run.Meets ReleasesUnqueued step (start timeoutSeconds reconnectSeconds) actions) :
    Covers Safe (final step (start timeoutSeconds reconnectSeconds) actions) := by
  refine invariant (Covers Safe) (fun thread act covers unqueued => ?_) _ _ (.start _ _ _) unqueued
  have free : ∀ life last, life.queuePending = 0 → Unqueued life last := fun _ _ none _ => none
  refine covers.step free .fresh (fun _ _ safe move => safe.move move) ?_ (fun _ _ _ _ _ _ => trivial)
  rintro last sender rest rfl batch rfl
  have absent : .sendQueue sender ∉ rest := by simpa only [ReleasesUnqueued,batch] using unqueued
  simpa [life,batch] using count_eq_zero_of_not_mem absent

theorem never_called_after_destroyed (timeoutSeconds reconnectSeconds : Nat) (actions : List Action)
    (unqueued : Run.Meets ReleasesUnqueued step (start timeoutSeconds reconnectSeconds) actions)
    (sender : Nat) :
    ((final step (start timeoutSeconds reconnectSeconds) actions).senders sender).calledAfter = false := by
  have covers := covers_safe unqueued
  rcases Nat.lt_or_ge sender (final step (start timeoutSeconds reconnectSeconds) actions).added with
    small | large
  · exact (covers.added sender small).called
  · exact congrArg Life.calledAfter (covers.absent sender large)

theorem never_called_after_destroyed_queue_first :
    Run.Meets ReleasesUnqueued step (start 0 0) [.addSender 3,.checkUnconnectedQueue (fun _ => .inProgress),
        .wait [.sender 0],.event .sentAll false,.wait [.sendQueue 0,.sender 0],.event .received false,
        .event .released true] ∧
      ((final step (start 0 0) [.addSender 3,.checkUnconnectedQueue (fun _ => .inProgress),
        .wait [.sender 0],.event .sentAll false,.wait [.sendQueue 0,.sender 0],.event .received false,
        .event .released true]).senders 0).calledAfter = false :=
  ⟨by decide +kernel,never_called_after_destroyed 0 0 _ (by decide +kernel) 0⟩

theorem called_after_release :
    ((final step (start 0 0) [.addSender 3,.checkUnconnectedQueue (fun _ => .inProgress),
      .wait [.sender 0],.event .sentAll false,.wait [.sender 0,.sendQueue 0],.event .released true,
      .event .received false]).senders 0).calledAfter = true := by
  decide +kernel

/-- In the unconnected queue, in the reconnect queue, or registered and in the timeout queue:
once, and in one of them. -/
def InOnePlace (thread : SendThread) (sender : Nat) : Prop :=
  (thread.unconnectedQueue.count sender = 1 ∧ thread.reconnectQueue.count sender = 0 ∧
      (thread.senders sender).registered = false ∧ thread.timeouts.items.count sender = 0) ∨
    (thread.unconnectedQueue.count sender = 0 ∧ thread.reconnectQueue.count sender = 1 ∧
      (thread.senders sender).registered = false ∧ thread.timeouts.items.count sender = 0) ∨
    (thread.unconnectedQueue.count sender = 0 ∧ thread.reconnectQueue.count sender = 0 ∧
      (thread.senders sender).registered = true ∧ thread.timeouts.items.count sender = 1)

/-- An event of a send queue belongs to a sender that was not removed, or whose socket is closed. -/
def NotifiesKept (thread : SendThread) : Action → Prop
  | .event _ _ => match thread.batch with
    | .sendQueue sender::_ => (thread.senders sender).removals = 0 ∨
        (thread.senders sender).destroyed = false ∧ (thread.senders sender).connected = false
    | _ => True
  | _ => True

instance (thread : SendThread) (action : Action) : Decidable (thread.NotifiesKept action) := by
  unfold NotifiesKept
  split
  · split <;> infer_instance
  · infer_instance

variable (thread : SendThread)

theorem count_timeouts (sender : Nat) :
    thread.timeouts.items.count sender = if (thread.life sender).timed then 1 else 0 := by
  by_cases mem : sender ∈ thread.timeouts
  · rw [count_eq_one_of_mem thread.timeouts.unique mem]
    simp [life,mem]
  · rw [count_eq_zero_of_not_mem mem]
    simp [life,mem]

variable {thread : SendThread} {sender : Nat}

theorem inOnePlace_of_placed (placed : (thread.life sender).Placed)
    (kept : (thread.senders sender).removals = 0) : thread.InOnePlace sender := by
  have timed := thread.count_timeouts sender
  rcases placed with placed | placed | placed | placed
  · rw [placed.timed] at timed
    exact Or.inl ⟨placed.unconnected,placed.reconnecting,placed.registered,timed⟩
  · rw [placed.timed] at timed
    exact Or.inr (Or.inl ⟨placed.unconnected,placed.reconnecting,placed.registered,timed⟩)
  · rw [placed.timed] at timed
    exact Or.inr (Or.inr ⟨placed.unconnected,placed.reconnecting,placed.registered,timed⟩)
  · exact absurd (kept.symm.trans placed.removals) Nat.zero_ne_one

theorem covers_placed (kept : Run.Meets NotifiesKept step (start timeoutSeconds reconnectSeconds) actions) :
    Covers Placed (final step (start timeoutSeconds reconnectSeconds) actions) := by
  refine invariant (Covers Placed) (fun thread act covers kept => ?_) _ _ (.start _ _ _) kept
  have free : ∀ (life : Life) (last : Bool), life.queuePending = 0 →
      (fun _ _ => True : Life → Bool → Prop) life last :=
    fun _ _ _ => trivial
  refine covers.step free .fresh (fun _ _ placed move => placed.move move) (fun _ _ _ _ _ => trivial) ?_
  rintro answer last sender rest rfl batch
  simp only [NotifiesKept,batch] at kept
  exact kept

variable {front : SendThread → SendThread}

theorem iterate_length (size : SendThread → Nat)
    (pops : ∀ thread, size (front thread) = size thread - 1) (count : Nat) (thread : SendThread) :
    size (front^[count] thread) = size thread - count := by
  induction count generalizing thread with
  | zero => rfl
  | succ count ih =>
    rw [Function.iterate_succ_apply,ih,pops]
    omega

theorem iterate_same {Value : Type} (value : SendThread → Value)
    (same : ∀ thread, value (front thread) = value thread) (count : Nat) (thread : SendThread) :
    value (front^[count] thread) = value thread := by
  induction count generalizing thread with
  | zero => rfl
  | succ count ih => rw [Function.iterate_succ_apply,ih,same]

variable (last : Nat → Bool)

section
variable (thread : SendThread)

theorem clearUnconnectedFront_length :
    (clearUnconnectedFront last thread).unconnectedQueue.length = thread.unconnectedQueue.length - 1 := by
  unfold clearUnconnectedFront
  split <;> (rename_i queue; rw [queue]; rfl)

theorem clearReconnectFront_length :
    (clearReconnectFront last thread).reconnectQueue.length = thread.reconnectQueue.length - 1 := by
  unfold clearReconnectFront
  split <;> (rename_i queue; rw [queue]; rfl)

theorem clearTimeoutFront_length :
    (clearTimeoutFront last thread).timeouts.items.length = thread.timeouts.items.length - 1 := by
  unfold clearTimeoutFront
  split
  · rename_i none
    have empty := head?_eq_none_iff.mp none
    rw [empty]
    rfl
  · rename_i sender front
    have popped := Queue.length_remove (Queue.mem_of_front front)
    show ((thread.timeouts.remove sender).remove sender).items.length = _
    rw [Queue.remove_of_not_mem (by simp)]
    omega

end

theorem afterRun_empty : (thread.afterRun last).unconnectedQueue = [] ∧
    (thread.afterRun last).reconnectQueue = [] ∧
      (thread.afterRun last).timeouts.items = [] := by
  unfold afterRun
  dsimp only
  have one : ((clearUnconnectedFront last)^[thread.unconnectedQueue.length]
      thread).unconnectedQueue = [] := by
    rw [← length_eq_zero_iff,
      iterate_length (·.unconnectedQueue.length) (clearUnconnectedFront_length last),Nat.sub_self]
  generalize (clearUnconnectedFront last)^[thread.unconnectedQueue.length] thread = first at one ⊢
  have two : ((clearReconnectFront last)^[first.reconnectQueue.length] first).unconnectedQueue = [] ∧
      ((clearReconnectFront last)^[first.reconnectQueue.length] first).reconnectQueue = [] := by
    refine ⟨?_,?_⟩
    · rw [← one]
      exact iterate_same (·.unconnectedQueue) (fun thread => by unfold clearReconnectFront; split <;> rfl) _ _
    · rw [← length_eq_zero_iff,
        iterate_length (·.reconnectQueue.length) (clearReconnectFront_length last),Nat.sub_self]
  refine ⟨?_,?_,?_⟩
  · rw [← two.1]
    exact iterate_same (·.unconnectedQueue) (fun thread => by unfold clearTimeoutFront; split <;> rfl) _ _
  · rw [← two.2]
    exact iterate_same (·.reconnectQueue) (fun thread => by unfold clearTimeoutFront; split <;> rfl) _ _
  · rw [← length_eq_zero_iff,
      iterate_length (·.timeouts.items.length) (clearTimeoutFront_length last),Nat.sub_self]

theorem removed_after_run (covers : Covers Placed thread) (idle : thread.batch = [])
    {last : Nat → Bool} (small : sender < thread.added) :
    ((thread.afterRun last).senders sender).removals = 1 := by
  have moved : Moved (fun _ _ => True) Kept thread (thread.afterRun last) :=
    afterRun_moved (fun _ _ _ => trivial) last thread idle
  have placed : ((thread.afterRun last).life sender).Placed :=
    (moved.moves sender).invariant Placed (fun _ _ placed move => placed.move move)
      (covers.added sender small)
  obtain ⟨unconnected,reconnecting,timeouts⟩ := thread.afterRun_empty last
  rcases placed with placed | placed | placed | placed
  · have there := placed.unconnected
    simp [life,unconnected] at there
  · have there := placed.reconnecting
    simp [life,reconnecting] at there
  · have there := placed.timed
    simp [life,← Queue.mem_items,timeouts] at there
  · exact placed.removals

theorem one_place_until_removed_once (timeoutSeconds reconnectSeconds : Nat) (actions : List Action)
    (kept : Run.Meets NotifiesKept step (start timeoutSeconds reconnectSeconds) actions) :
    (∀ sender < (final step (start timeoutSeconds reconnectSeconds) actions).added,
      ((final step (start timeoutSeconds reconnectSeconds) actions).senders sender).removals = 0 →
        (final step (start timeoutSeconds reconnectSeconds) actions).InOnePlace sender) ∧
    ((final step (start timeoutSeconds reconnectSeconds) actions).batch = [] →
      ∀ (last : Nat → Bool), ∀ sender < (final step (start timeoutSeconds reconnectSeconds) actions).added,
        (((final step (start timeoutSeconds reconnectSeconds) actions).afterRun last).senders
          sender).removals = 1) := by
  have covers := covers_placed kept
  exact ⟨fun sender small => inOnePlace_of_placed (covers.added sender small),
    fun idle last sender small => removed_after_run covers idle small⟩

theorem one_place_until_removed_once_notified :
    Run.Meets NotifiesKept step (start 0 0) [.addSender 3,.checkUnconnectedQueue (fun _ => .inProgress),
        .wait [.sender 0],.event .sentAll false,.wait [.sendQueue 0],.event .received false,.addSender 3] ∧
      (((final step (start 0 0) [.addSender 3,.checkUnconnectedQueue (fun _ => .inProgress),
        .wait [.sender 0],.event .sentAll false,.wait [.sendQueue 0],.event .received false,
        .addSender 3]).afterRun (fun _ => true)).senders 0).removals = 1 :=
  ⟨by decide +kernel,(one_place_until_removed_once 0 0 _ (by decide +kernel)).2 (by decide +kernel)
    _ 0 (by decide +kernel)⟩

theorem removed_twice : (((final step (start 0 0) [.addSender 3,.checkUnconnectedQueue (fun _ => .inProgress),
      .wait [.sender 0],.event .sentAll false,.wait [.sender 0,.sendQueue 0],.event .released false,
      .event .received false,.wait [.sender 0],.event .received false]).afterRun
        (fun _ => false)).senders 0).removals =
        2 := by
  decide +kernel

end Mooon.Dispatcher.SendThread

import Mooon.Dispatcher.SendThread
import Mathlib.Logic.Relation

/-! The life of one sender in its send thread. The operations of the thread on a sender leave
every other sender alone, so the thread is seen here as one small machine for each sender: where
the sender is queued and registered, and how many of its events are left in the batch. A step of
the thread is a sequence of moves of each of these machines. -/
namespace Mooon.Dispatcher
open Bool

structure Life where
  unconnected : Nat
  reconnecting : Nat
  timed : Bool
  connected : Bool
  registered : Bool
  queueRegistered : Bool
  removals : Nat
  destroyed : Bool
  calledAfter : Bool
  socketPending : Nat
  queuePending : Nat

namespace Life

def absent : Life := ⟨0,0,false,false,false,false,0,false,false,0,0⟩

def fresh : Life := {absent with unconnected := 1}

def reconnect (life : Life) : Life :=
  {life with connected := false, registered := false, timed := false, reconnecting := life.reconnecting + 1}

def connect (life : Life) : ConnectResult → Life
  | .failed => life.reconnect
  | .established | .inProgress => {life with connected := true, registered := true, timed := true}

def remove (life : Life) (last : Bool) : Life :=
  if last then
    {life with
      removals := life.removals + 1, destroyed := true, connected := false, registered := false,
      queueRegistered := false, timed := false}
  else
    {life with
      removals := life.removals + 1, registered := life.registered && !life.connected, timed := false}

def answer (life : Life) (last : Bool) : Answer → Life
  | .received => {life with timed := true}
  | .sentAll =>
    {life with timed := true, queueRegistered := true, registered := life.registered || life.connected}
  | .sentPart => {life with timed := true, registered := life.registered || life.connected}
  | .failed _ => life.reconnect
  | .released => life.remove last

def socketEvent (life : Life) (answer : Answer) (last : Bool) : Life :=
  if life.destroyed then {life with calledAfter := true} else life.answer last answer

def queueEvent (life : Life) : Life :=
  if life.destroyed then {life with calledAfter := true}
  else {life with registered := life.registered || life.connected, queueRegistered := false}

/-- One move of a sender. `Release` restricts the calls of `remove_sender`, and `Notify` the events
of the send queue. -/
inductive Move (Release : Life → Bool → Prop) (Notify : Life → Prop) : Life → Life → Prop where
  | connect (life : Life) (result : ConnectResult) (waiting : 0 < life.unconnected) :
      Move Release Notify life ({life with unconnected := life.unconnected - 1}.connect result)
  | retry (life : Life) (result : ConnectResult) (waiting : 0 < life.reconnecting) :
      Move Release Notify life ({life with reconnecting := life.reconnecting - 1}.connect result)
  | giveUp (life : Life) (last : Bool) (waiting : 0 < life.reconnecting) (allowed : Release life last) :
      Move Release Notify life ({life with reconnecting := life.reconnecting - 1}.remove last)
  | clear (life : Life) (last : Bool) (waiting : 0 < life.unconnected) (allowed : Release life last) :
      Move Release Notify life ({life with unconnected := life.unconnected - 1}.remove last)
  | clearTimed (life : Life) (last : Bool) (timed : life.timed = true) (idle : life.socketPending = 0)
      (allowed : Release life last) :
      Move Release Notify life ({life with timed := false}.remove last)
  | timeout (life : Life) (timed : life.timed = true) (idle : life.socketPending = 0) :
      Move Release Notify life life.reconnect
  | wait (life : Life) (socket queue : Nat) (once : socket ≤ 1) (socketReady : 0 < socket →
    life.registered = true)
      (queueReady : 0 < queue → life.queueRegistered = true) :
      Move Release Notify life {life with socketPending := socket, queuePending := queue}
  | socketEvent (life : Life) (answer : Answer) (last : Bool) (pending : 0 < life.socketPending)
      (allowed : answer = .released → Release life last) :
      Move Release Notify life ({life with socketPending := life.socketPending - 1}.socketEvent answer last)
  | queueEvent (life : Life) (pending : 0 < life.queuePending) (allowed : Notify life) :
      Move Release Notify life {life with queuePending := life.queuePending - 1}.queueEvent

abbrev Moves (Release : Life → Bool → Prop) (Notify : Life → Prop) : Life → Life → Prop :=
  Relation.ReflTransGen (Move Release Notify)

section
variable {Release : Life → Bool → Prop} {Notify : Life → Prop} {last : Life}

theorem Moves.invariant (holds : Life → Prop)
    (preserved : ∀ before after, holds before → Move Release Notify before after → holds after)
    {first : Life} (moves : Moves Release Notify first last) (start : holds first) : holds last := by
  induction moves with
  | refl => exact start
  | tail _ move ih => exact preserved _ _ ih move

theorem Moves.absent (moves : Moves Release Notify absent last) : last = absent := by
  refine moves.invariant (· = Life.absent) ?_ rfl
  rintro before after rfl move
  cases move with
  | wait socket queue once socketReady queueReady =>
    have socket := Nat.eq_zero_of_not_pos (fun pos => false_ne_true (socketReady pos))
    have queue := Nat.eq_zero_of_not_pos (fun pos => false_ne_true (queueReady pos))
    subst socket queue
    rfl
  | connect _ waiting | retry _ waiting | giveUp _ waiting | clear _ waiting => cases waiting
  | clearTimed _ timed | timeout timed => cases timed
  | socketEvent _ _ pending | queueEvent pending => cases pending

end

/-- With the last reference no event of the send queue is left in the batch. -/
def Unqueued (life : Life) (last : Bool) : Prop := last = true → life.queuePending = 0

structure Safe (life : Life) : Prop where
  gone : life.destroyed = true → life.connected = false ∧ life.queueRegistered = false ∧
    life.unconnected = 0 ∧
    life.reconnecting = 0 ∧ life.socketPending = 0 ∧ life.queuePending = 0
  registered : life.registered = true → life.connected = true
  timed : life.timed = true → life.connected = true
  waiting : life.connected = true → life.unconnected = 0 ∧ life.reconnecting = 0
  single : life.unconnected + life.reconnecting ≤ 1
  pending : 0 < life.socketPending → life.registered = true
  once : life.socketPending ≤ 1
  called : life.calledAfter = false

theorem Safe.fresh : fresh.Safe := by
  constructor <;> decide

/-- A sender that no queue, no event and no descriptor belongs to, apart from its send queue. -/
structure Loose (life : Life) : Prop where
  live : life.destroyed = false
  unconnected : life.unconnected = 0
  reconnecting : life.reconnecting = 0
  socketPending : life.socketPending = 0
  called : life.calledAfter = false

variable {life : Life}

theorem Loose.reconnect (loose : life.Loose) : life.reconnect.Safe := by
  obtain ⟨live,unconnected,reconnecting,socketPending,called⟩ := loose
  constructor <;> simp [Life.reconnect,live,unconnected,reconnecting,socketPending,called]

theorem Loose.connect (loose : life.Loose) (res : ConnectResult) : (life.connect res).Safe := by
  obtain ⟨live,unconnected,reconnecting,socketPending,called⟩ := id loose
  cases res with
  | failed => exact loose.reconnect
  | _ => constructor <;> simp [Life.connect,live,unconnected,reconnecting,socketPending,called]

theorem Loose.remove (loose : life.Loose) (registered : life.registered = true → life.connected = true)
    {last : Bool} (unqueued : last = true → life.queuePending = 0) : (life.remove last).Safe := by
  obtain ⟨live,unconnected,reconnecting,socketPending,called⟩ := loose
  cases last with
  | true => constructor <;> simp [Life.remove,unconnected,reconnecting,socketPending,called,unqueued rfl]
  | false =>
    constructor <;> simp [Life.remove,live,unconnected,reconnecting,socketPending,called]
    exact fun there _ => registered there

section
variable (safe : life.Safe)
include safe

theorem Safe.socketPending (unconnected : life.connected = false) : life.socketPending = 0 := by
  refine Nat.eq_zero_of_not_pos (fun pending => ?_)
  have connected := safe.registered (safe.pending pending)
  rw [unconnected] at connected
  cases connected

theorem Safe.listed (waiting : 0 < life.unconnected + life.reconnecting) :
    life.destroyed = false ∧ life.socketPending = 0 := by
  have unconnected : life.connected = false := by
    refine eq_false_iff.mpr (fun connected => ?_)
    obtain ⟨none,none'⟩ := safe.waiting connected
    omega
  refine ⟨eq_false_iff.mpr (fun destroyed => ?_),safe.socketPending unconnected⟩
  obtain ⟨-,-,none,none',-⟩ := safe.gone destroyed
  omega

theorem Safe.popUnconnected (waiting : 0 < life.unconnected) :
    {life with unconnected := life.unconnected - 1}.Loose := by
  obtain ⟨live,socketPending⟩ := safe.listed (by omega)
  have single := safe.single
  refine ⟨live,?_,?_,socketPending,safe.called⟩ <;> dsimp only <;> omega

theorem Safe.popReconnecting (waiting : 0 < life.reconnecting) :
    {life with reconnecting := life.reconnecting - 1}.Loose := by
  obtain ⟨live,socketPending⟩ := safe.listed (by omega)
  have single := safe.single
  refine ⟨live,?_,?_,socketPending,safe.called⟩ <;> dsimp only <;> omega

theorem Safe.live (connected : life.connected = true) : life.destroyed = false := by
  refine eq_false_iff.mpr (fun destroyed => ?_)
  rw [(safe.gone destroyed).1] at connected
  cases connected

theorem Safe.loose (connected : life.connected = true)
    (idle : life.socketPending = 0) : life.Loose :=
  ⟨safe.live connected,(safe.waiting connected).1,(safe.waiting connected).2,idle,safe.called⟩

end

variable {before after : Life}

theorem Safe.move (safe : before.Safe) (move : Move Unqueued (fun _ => True) before after) : after.Safe := by
  cases move with
  | connect res pos => exact (safe.popUnconnected pos).connect res
  | retry res pos => exact (safe.popReconnecting pos).connect res
  | giveUp last pos allowed => exact (safe.popReconnecting pos).remove safe.registered allowed
  | clear last pos allowed => exact (safe.popUnconnected pos).remove safe.registered allowed
  | clearTimed last there idle allowed =>
    have loose := safe.loose (safe.timed there) idle
    exact Loose.remove {loose with socketPending := idle} safe.registered allowed
  | timeout there idle => exact (safe.loose (safe.timed there) idle).reconnect
  | wait socket queue few socketReady queueReady =>
    refine {safe with gone := fun destroyed => ?_, pending := socketReady, once := few}
    obtain ⟨unconnected,unqueued,none,none',-⟩ := safe.gone destroyed
    refine ⟨unconnected,unqueued,none,none',?_,?_⟩
    · refine Nat.eq_zero_of_not_pos (fun pos => ?_)
      have connected := safe.registered (socketReady pos)
      rw [unconnected] at connected
      cases connected
    · refine Nat.eq_zero_of_not_pos (fun pos => ?_)
      have registered := queueReady pos
      rw [unqueued] at registered
      cases registered
  | socketEvent answer last pos allowed =>
    have connected := safe.registered (safe.pending pos)
    have live := safe.live connected
    obtain ⟨unconnected,reconnecting⟩ := safe.waiting connected
    have idle : before.socketPending - 1 = 0 := by have once := safe.once; omega
    have loose : {before with socketPending := before.socketPending - 1}.Loose :=
      ⟨live,unconnected,reconnecting,idle,safe.called⟩
    rw [Life.socketEvent,if_neg (by rw [live]; exact false_ne_true)]
    cases answer with
    | failed writable => exact loose.reconnect
    | released => exact loose.remove safe.registered (allowed rfl)
    | _ => constructor <;> simp [Life.answer,live,connected,unconnected,reconnecting,idle,safe.called]
  | queueEvent pos allowed =>
    have live : before.destroyed = false := by
      refine eq_false_iff.mpr (fun destroyed => ?_)
      obtain ⟨-,-,-,-,-,none⟩ := safe.gone destroyed
      omega
    rw [Life.queueEvent,if_neg (by rw [live]; exact false_ne_true)]
    refine ⟨by simp [live],?_,safe.timed,safe.waiting,safe.single,?_,safe.once,safe.called⟩
    · intro registered
      rcases or_eq_true_iff.mp registered with registered | connected
      · exact safe.registered registered
      · exact connected
    · intro pending
      exact or_eq_true_iff.mpr (.inl (safe.pending pending))

/-- Where a sender is: how often it is in each list, whether it is watched, and how often it was
passed to `remove_sender`. -/
structure At (life : Life) (times waiting retrying : Nat) (watched : Bool) : Prop where
  removals : life.removals = times
  unconnected : life.unconnected = waiting
  reconnecting : life.reconnecting = retrying
  registered : life.registered = watched
  timed : life.timed = watched
  pending : life.socketPending ≤ watched.toNat
  live : times = 0 → life.destroyed = false ∧ life.connected = watched
  gone : life.destroyed = true → life.connected = false

/-- The sender was not removed, or it has no descriptor that its send queue could register. -/
def Kept (life : Life) : Prop := life.removals = 0 ∨ life.destroyed = false ∧ life.connected = false

def Placed (life : Life) : Prop :=
  life.At 0 1 0 false ∨ life.At 0 0 1 false ∨ life.At 0 0 0 true ∨ life.At 1 0 0 false

theorem Placed.fresh : fresh.Placed := by
  left
  constructor <;> decide

section
variable {life : Life} {watched : Bool}

theorem At.reconnect (placed : life.At 0 0 0 watched) (idle : life.socketPending = 0) :
    life.reconnect.At 0 0 1 false := by
  obtain ⟨live,-⟩ := placed.live rfl
  exact ⟨placed.removals,placed.unconnected,by simp [Life.reconnect,placed.reconnecting],rfl,rfl,idle.le,
    fun _ => ⟨live,rfl⟩,fun _ => rfl⟩

theorem At.connect (placed : life.At 0 0 0 false) (res : ConnectResult) : (life.connect res).Placed := by
  have idle := Nat.le_zero.mp placed.pending
  obtain ⟨live,-⟩ := placed.live rfl
  cases res with
  | failed => exact .inr (.inl (placed.reconnect idle))
  | established | inProgress =>
    refine .inr (.inr (.inl ⟨placed.removals,placed.unconnected,placed.reconnecting,rfl,rfl,?_,?_,?_⟩))
    · exact placed.pending.trans (Nat.zero_le _)
    · exact fun _ => ⟨live,rfl⟩
    · intro destroyed
      exact absurd (live.symm.trans destroyed) false_ne_true

theorem At.remove (placed : life.At 0 0 0 watched) (idle : life.socketPending = 0) (last : Bool) :
    (life.remove last).At 1 0 0 false := by
  obtain ⟨live,connected⟩ := placed.live rfl
  have registered := placed.registered
  cases last with
  | true => constructor <;> simp [Life.remove,placed.removals,placed.unconnected,placed.reconnecting,idle]
  | false =>
    constructor <;> simp [Life.remove,placed.removals,placed.unconnected,placed.reconnecting,idle,
      live,connected,registered]

section
variable (placed : life.Placed)
include placed

theorem Placed.unconnected (waiting : 0 < life.unconnected) : life.At 0 1 0 false := by
  rcases placed with placed | placed | placed | placed
  all_goals
    have none := placed.unconnected
    omega

theorem Placed.reconnecting (waiting : 0 < life.reconnecting) : life.At 0 0 1 false := by
  rcases placed with placed | placed | placed | placed
  · have none := placed.reconnecting
    omega
  all_goals
    have none := placed.reconnecting
    omega

theorem Placed.timed (there : life.timed = true) : life.At 0 0 0 true := by
  rcases placed with placed | placed | placed | placed
  · exact absurd (placed.timed.symm.trans there) false_ne_true
  · exact absurd (placed.timed.symm.trans there) false_ne_true
  · exact placed
  · exact absurd (placed.timed.symm.trans there) false_ne_true

theorem Placed.pending (pos : 0 < life.socketPending) : life.At 0 0 0 true := by
  rcases placed with placed | placed | placed | placed
  · exact absurd placed.pending (Nat.not_le.mpr pos)
  · exact absurd placed.pending (Nat.not_le.mpr pos)
  · exact placed
  · exact absurd placed.pending (Nat.not_le.mpr pos)

end

theorem At.popUnconnected (placed : life.At 0 1 0 false) :
    {life with unconnected := life.unconnected - 1}.At 0 0 0 false :=
  {placed with unconnected := by simp [placed.unconnected]}

theorem At.popReconnecting (placed : life.At 0 0 1 false) :
    {life with reconnecting := life.reconnecting - 1}.At 0 0 0 false :=
  {placed with reconnecting := by simp [placed.reconnecting]}

end

variable {times waiting retrying : Nat} {watched : Bool}

theorem At.wait (placed : life.At times waiting retrying watched) {socket queue : Nat} (few : socket ≤ 1)
    (ready : 0 < socket → life.registered = true) :
    {life with socketPending := socket, queuePending := queue}.At times waiting retrying watched := by
  refine {placed with pending := ?_}
  cases watched with
  | true => exact few
  | false =>
    refine Nat.le_of_not_lt (fun pos => ?_)
    exact absurd (placed.registered.symm.trans (ready pos)) false_ne_true

theorem At.queueEvent (placed : life.At times waiting retrying watched)
    (allowed : times = 0 ∨ life.destroyed = false ∧ life.connected = false) :
    {life with queuePending := life.queuePending - 1}.queueEvent.At times waiting retrying watched := by
  have live : life.destroyed = false := by
    rcases allowed with kept | ⟨live,-⟩
    · exact (placed.live kept).1
    · exact live
  have registered : (life.registered || life.connected) = watched := by
    rcases allowed with kept | ⟨-,closed⟩
    · rw [placed.registered,(placed.live kept).2,Bool.or_self]
    · rw [closed,Bool.or_false,placed.registered]
  rw [Life.queueEvent,if_neg (by rw [live]; exact Bool.false_ne_true)]
  exact {placed with registered}

theorem Placed.move (placed : before.Placed) (move : Move (fun _ _ => True) Kept before after) :
    after.Placed := by
  cases move with
  | connect res pos => exact (placed.unconnected pos).popUnconnected.connect res
  | retry res pos => exact (placed.reconnecting pos).popReconnecting.connect res
  | giveUp last pos =>
    have popped := (placed.reconnecting pos).popReconnecting
    exact .inr (.inr (.inr (popped.remove (Nat.le_zero.mp popped.pending) last)))
  | clear last pos =>
    have popped := (placed.unconnected pos).popUnconnected
    exact .inr (.inr (.inr (popped.remove (Nat.le_zero.mp popped.pending) last)))
  | clearTimed last there idle =>
    have removed := (placed.timed there).remove idle last
    refine .inr (.inr (.inr ?_))
    cases last <;> exact removed
  | timeout there idle => exact .inr (.inl ((placed.timed there).reconnect idle))
  | wait socket queue few socketReady queueReady =>
    exact placed.imp (·.wait few socketReady) (.imp (·.wait few socketReady) (.imp (·.wait few socketReady)
      (·.wait few socketReady)))
  | socketEvent answer last pos allowed =>
    have watched := placed.pending pos
    have idle : before.socketPending - 1 = 0 := by
      have few : before.socketPending ≤ 1 := watched.pending
      omega
    have heard : {before with socketPending := before.socketPending - 1}.At 0 0 0 true :=
      {watched with pending := idle.le.trans (Nat.zero_le _)}
    obtain ⟨live,connected⟩ := watched.live rfl
    rw [Life.socketEvent,if_neg (by rw [live]; exact false_ne_true)]
    cases answer with
    | failed writable => exact .inr (.inl (heard.reconnect idle))
    | released => exact .inr (.inr (.inr (heard.remove idle last)))
    | _ =>
      refine .inr (.inr (.inl ?_))
      constructor <;>
        simp [Life.answer,watched.removals,watched.unconnected,watched.reconnecting,
          watched.registered,live,connected,idle]
  | queueEvent pos allowed =>
    rcases placed with placed | placed | placed | placed
    · exact .inl (placed.queueEvent (.inl rfl))
    · exact .inr (.inl (placed.queueEvent (.inl rfl)))
    · exact .inr (.inr (.inl (placed.queueEvent (.inl rfl))))
    · refine .inr (.inr (.inr (placed.queueEvent (.inr ?_))))
      rcases allowed with none | closed
      · rw [placed.removals] at none
        cases none
      · exact closed

end Life

end Mooon.Dispatcher

import Mooon.Ring
import Mooon.Run

/-! `CEventQueue` over `CArrayQueue`. A step is a section under the lock: from the begin of a call,
or from the return of its wait, to the next wait or to the end of the call. -/
namespace Mooon.Sys.EventQueue
open List Prod

/-- The waiting calls in the order in which they began to wait, with whether they were notified. -/
structure State (α : Type) (queueMax : Nat) where
  rawQueue : Ring α queueMax
  popWaiterNumber : Nat
  pushWaiterNumber : Nat
  popWaiters : List Bool
  pushWaiters : List (α × Bool)

inductive Action (α : Type) where
  | popFront
  | pushBack (elem : α)
  /-- The call at this place among the waiting ones goes on, notified or not. -/
  | resumePop (i : Nat) (timedOut : Bool)
  | resumePush (i : Nat) (elem : α) (timedOut : Bool)

/-- The call waits, or returns: `pop_front` with the element it got. No such call waits where it is `idle`. -/
inductive Answer (α : Type) where
  | idle
  | waits
  | popped (elem : Option α)
  | pushed (result : Bool)

variable {α : Type} {queueMax : Nat}

def State.new (cell : α) (positive : 0 < queueMax) : State α queueMax := ⟨.empty cell positive,0,0,[],[]⟩

def State.broadcast (state : State α queueMax) : State α queueMax :=
  {state with
    popWaiters := state.popWaiters.map fun _ => true
    pushWaiters := state.pushWaiters.map fun waiter => (waiter.1,true)}

/-- The loop of `pop_front`. -/
def State.popFront (popMilliseconds : UInt32) (state : State α queueMax) : State α queueMax × Answer α :=
  if filled : 0 < state.rawQueue.size then
    let next := {state with rawQueue := state.rawQueue.pop filled}
    (if 0 < next.pushWaiterNumber then next.broadcast else next,.popped (some state.rawQueue.front))
  else if popMilliseconds = 0 then (state,.popped none)
  else
    ({state with
      popWaiterNumber := state.popWaiterNumber + 1, popWaiters := state.popWaiters ++ [false]},.waits)

def State.pushBack (pushMilliseconds : UInt32) (state : State α queueMax)
    (elem : α) : State α queueMax × Answer α :=
  if room : state.rawQueue.size < queueMax then
    let next := {state with rawQueue := state.rawQueue.push elem room}
    (if 0 < next.popWaiterNumber then next.broadcast else next,.pushed true)
  else if pushMilliseconds = 0 then (state,.pushed false)
  else
    ({state with
      pushWaiterNumber := state.pushWaiterNumber + 1
      pushWaiters := state.pushWaiters ++ [(elem,false)]},.waits)

def step [DecidableEq α] (popMilliseconds pushMilliseconds : UInt32) (state : State α queueMax) :
    Action α → State α queueMax × Answer α
  | .popFront => state.popFront popMilliseconds
  | .pushBack elem => state.pushBack pushMilliseconds elem
  | .resumePop i timedOut =>
    if i < state.popWaiters.length then
      let woken := {state with
        popWaiterNumber := state.popWaiterNumber - 1, popWaiters := state.popWaiters.eraseIdx i}
      if timedOut then (woken,.popped none) else woken.popFront popMilliseconds
    else (state,.idle)
  | .resumePush i elem timedOut =>
    if (state.pushWaiters.map fst)[i]? = some elem then
      let woken := {state with
        pushWaiterNumber := state.pushWaiterNumber - 1, pushWaiters := state.pushWaiters.eraseIdx i}
      if timedOut then (woken,.pushed false) else woken.pushBack pushMilliseconds elem
    else (state,.idle)

def Action.elem : Action α → Option α
  | .pushBack elem | .resumePush _ elem _ => some elem
  | .popFront | .resumePop _ _ => none

/-- The element of a push that returned true. -/
def added (act : Action α) : Answer α → List α
  | .pushed true => act.elem.toList
  | _ => []

def taken : Answer α → List α
  | .popped elem => elem.toList
  | _ => []

/-- The counters are right, and who waits without being notified has a reason to. -/
structure Sound (state : State α queueMax) : Prop where
  poppers : state.popWaiterNumber = state.popWaiters.length
  pushers : state.pushWaiterNumber = state.pushWaiters.length
  empty : false ∈ state.popWaiters → state.rawQueue.size = 0
  full : false ∈ state.pushWaiters.map snd → state.rawQueue.size = queueMax

variable {state : State α queueMax}

theorem Sound.broadcast (poppers : state.popWaiterNumber = state.popWaiters.length)
    (pushers : state.pushWaiterNumber = state.pushWaiters.length) : Sound state.broadcast := by
  refine ⟨?_,?_,?_,?_⟩
  · simpa [State.broadcast] using poppers
  · simpa [State.broadcast] using pushers
  · simp [State.broadcast]
  · simp [State.broadcast]

section
variable (sound : Sound state)
include sound

theorem Sound.popFront (popMilliseconds : UInt32) : Sound (state.popFront popMilliseconds).1 := by
  have idle (filled : 0 < state.rawQueue.size) : false ∉ state.popWaiters :=
    fun waits => absurd (sound.empty waits) (Nat.ne_of_gt filled)
  unfold State.popFront
  split_ifs with filled zero
  · dsimp only
    split_ifs with waiting
    · exact .broadcast sound.poppers sound.pushers
    · refine ⟨sound.poppers,sound.pushers,fun waits => absurd waits (idle filled),fun waits => ?_⟩
      have empty : state.pushWaiters = [] := length_eq_zero_iff.mp (by rw [← sound.pushers]; omega)
      simp [empty] at waits
  · exact sound
  · refine ⟨?_,sound.pushers,fun _ => Nat.eq_zero_of_not_pos filled,sound.full⟩
    simp [sound.poppers]

theorem Sound.pushBack (pushMilliseconds : UInt32) (elem : α) :
    Sound (state.pushBack pushMilliseconds elem).1 := by
  have idle (room : state.rawQueue.size < queueMax) : false ∉ state.pushWaiters.map snd :=
    fun waits => absurd (sound.full waits) (Nat.ne_of_lt room)
  unfold State.pushBack
  split_ifs with room zero
  · dsimp only
    split_ifs with waiting
    · exact .broadcast sound.poppers sound.pushers
    · refine ⟨sound.poppers,sound.pushers,fun waits => ?_,fun waits => absurd waits (idle room)⟩
      have empty : state.popWaiters = [] := length_eq_zero_iff.mp (by rw [← sound.poppers]; omega)
      simp [empty] at waits
  · exact sound
  · have full := Nat.le_antisymm state.rawQueue.size_le (Nat.not_lt.mp room)
    refine ⟨sound.poppers,?_,sound.empty,fun _ => full⟩
    simp [sound.pushers]

theorem Sound.wakePop {i : Nat} (inside : i < state.popWaiters.length) :
    Sound {state with
      popWaiterNumber := state.popWaiterNumber - 1, popWaiters := state.popWaiters.eraseIdx i} :=
  ⟨by rw [length_eraseIdx_of_lt inside,sound.poppers],sound.pushers,
    fun waits => sound.empty (mem_of_mem_eraseIdx waits),sound.full⟩

theorem Sound.wakePush {i : Nat} (inside : i < state.pushWaiters.length) :
    Sound {state with
      pushWaiterNumber := state.pushWaiterNumber - 1, pushWaiters := state.pushWaiters.eraseIdx i} :=
  ⟨sound.poppers,by rw [length_eraseIdx_of_lt inside,sound.pushers],sound.empty,
    fun waits => sound.full (((eraseIdx_sublist _ i).map snd).subset waits)⟩

end

theorem popFront_passes (state : State α queueMax) (popMilliseconds : UInt32) (act : Action α) :
    state.rawQueue.contents ++ added act (state.popFront popMilliseconds).2 =
      taken (state.popFront popMilliseconds).2 ++ (state.popFront popMilliseconds).1.rawQueue.contents := by
  unfold State.popFront
  split_ifs with filled zero
  · rw [Ring.contents_pop state.rawQueue filled]
    refine (append_nil _).trans ?_
    dsimp only
    split_ifs <;> rfl
  · exact append_nil _
  · exact append_nil _

theorem pushBack_passes (state : State α queueMax) (pushMilliseconds : UInt32) (elem : α) :
    state.rawQueue.contents ++ added (.pushBack elem) (state.pushBack pushMilliseconds elem).2 =
      taken (state.pushBack pushMilliseconds elem).2 ++
        (state.pushBack pushMilliseconds elem).1.rawQueue.contents := by
  unfold State.pushBack
  split_ifs with room zero
  · dsimp only
    refine (Ring.contents_push state.rawQueue elem room).symm.trans ?_
    split_ifs <;> rfl
  · exact append_nil _
  · exact append_nil _

variable [DecidableEq α]

theorem step_sound (popMilliseconds pushMilliseconds : UInt32) (state : State α queueMax) (act : Action α)
    (sound : Sound state) : Sound (step popMilliseconds pushMilliseconds state act).1 := by
  cases act with
  | popFront => exact sound.popFront popMilliseconds
  | pushBack elem => exact sound.pushBack pushMilliseconds elem
  | resumePop i timedOut =>
    unfold step
    dsimp only
    split_ifs with inside late
    · exact sound.wakePop inside
    · exact (sound.wakePop inside).popFront popMilliseconds
    · exact sound
  | resumePush i elem timedOut =>
    unfold step
    dsimp only
    split_ifs with found late
    · exact sound.wakePush (by simpa using (List.getElem?_eq_some_iff.mp found).1)
    · exact (sound.wakePush (by simpa using (List.getElem?_eq_some_iff.mp found).1)).pushBack
        pushMilliseconds elem
    · exact sound

theorem step_passes (popMilliseconds pushMilliseconds : UInt32) (state : State α queueMax) (act : Action α) :
    state.rawQueue.contents ++ added act (step popMilliseconds pushMilliseconds state act).2 =
      taken (step popMilliseconds pushMilliseconds state act).2 ++
        (step popMilliseconds pushMilliseconds state act).1.rawQueue.contents := by
  cases act with
  | popFront => exact popFront_passes state popMilliseconds _
  | pushBack elem => exact pushBack_passes state pushMilliseconds elem
  | resumePop i timedOut =>
    unfold step
    dsimp only
    split_ifs
    · exact append_nil _
    · exact popFront_passes {state with
        popWaiterNumber := state.popWaiterNumber - 1
        popWaiters := state.popWaiters.eraseIdx i} popMilliseconds _
    · exact append_nil _
  | resumePush i elem timedOut =>
    unfold step
    dsimp only
    split_ifs
    · exact append_nil _
    · exact pushBack_passes {state with
        pushWaiterNumber := state.pushWaiterNumber - 1
        pushWaiters := state.pushWaiters.eraseIdx i} pushMilliseconds elem
    · exact append_nil _

def reached (queueMax : Nat) (cell : α) (popMilliseconds pushMilliseconds : UInt32)
    (actions : List (Action α)) : State α (queueMax+1) :=
  Run.final (step popMilliseconds pushMilliseconds) (.new cell queueMax.succ_pos) actions

def answers (queueMax : Nat) (cell : α) (popMilliseconds pushMilliseconds : UInt32)
    (actions : List (Action α)) : List (Answer α) :=
  Run.outputs (step popMilliseconds pushMilliseconds)
    (.new cell queueMax.succ_pos : State α (queueMax+1)) actions

/-- In every interleaving the pops return the elements of the pushes that returned true in their
order, there are never more than fit, no call waits for what is there without having been notified,
and a call that finds what it needs returns at once. -/
theorem bounded_buffer (queueMax : Nat) (cell : α) (popMilliseconds pushMilliseconds : UInt32)
    (actions : List (Action α)) :
    ∃ state, state = reached queueMax cell popMilliseconds pushMilliseconds actions ∧
      (actions.zip (answers queueMax cell popMilliseconds pushMilliseconds actions)).flatMap
        (fun call => added call.1 call.2) =
        (answers queueMax cell popMilliseconds pushMilliseconds actions).flatMap taken ++
          state.rawQueue.contents ∧
      state.rawQueue.contents.length ≤ queueMax + 1 ∧
      (false ∈ state.popWaiters → state.rawQueue.contents = []) ∧
      (false ∈ state.pushWaiters.map snd → state.rawQueue.contents.length = queueMax + 1) ∧
      (∀ elem, state.rawQueue.contents.length ≤ queueMax →
        (step popMilliseconds pushMilliseconds state (.pushBack elem)).2 = .pushed true) ∧
      (state.rawQueue.contents ≠ [] →
        ∃ elem, (step popMilliseconds pushMilliseconds state .popFront).2 = .popped (some elem)) := by
  have sound : Sound (reached queueMax cell popMilliseconds pushMilliseconds actions) :=
    Run.always Sound _ actions
      (fun state action _ => step_sound popMilliseconds pushMilliseconds state action)
      ⟨rfl,rfl,nofun,nofun⟩
  have length (ring : Ring α (queueMax+1)) : ring.contents.length = ring.size := by simp [Ring.contents]
  have passes := Run.passes (.new cell queueMax.succ_pos : State α (queueMax+1)) actions (·.rawQueue.contents)
    added taken (step_passes popMilliseconds pushMilliseconds)
  refine ⟨_,rfl,passes,?_,fun waits => ?_,fun waits => ?_,fun elem room => ?_,fun some => ?_⟩
  · rw [length]
    exact Ring.size_le _
  · rw [← length_eq_zero_iff,length]
    exact sound.empty waits
  · rw [length]
    exact sound.full waits
  · rw [length] at room
    simp only [step,State.pushBack,dif_pos (Nat.lt_succ_of_le room)]
  · rw [← length_pos_iff,length] at some
    simp only [step,State.popFront,dif_pos some]
    exact ⟨_,rfl⟩

end Mooon.Sys.EventQueue

import Mooon.Run

/-! The sleep of a `CThread` and what ends it. The test of `_stop`, its setting and the wake-up of
`stop` are steps of their own, and any number of threads may be between them. -/
namespace Mooon.Sys.Thread
open Run

inductive CurrentState where
  | sleeping
  | running
  | wakeuped
deriving DecidableEq

/-- Where the thread itself is: not in `do_millisleep`, or waiting there for a signal. -/
inductive Place where
  | outside
  | waiting (signalled : Bool)
deriving DecidableEq

/-- Beside the members of the thread, the threads between two steps of `stop`. -/
structure State where
  isStop : Bool
  currentState : CurrentState
  place : Place
  testing : Nat
  stopping : Nat

def State.start : State := ⟨false,.sleeping,.outside,0,0⟩

inductive Action where
  | wakeup
  | testStop
  | setStop
  | wakeupStop
  | doMillisleep
  /-- The signal came, the time is over, or it is for no reason. -/
  | resume

/-- `idle` where no thread is at this step; otherwise it is done, `do_millisleep` waits, or it has
returned. -/
inductive Answer where
  | idle
  | done
  | waits
  | returned

def Place.signal : Place → Place
  | .outside => .outside
  | .waiting _ => .waiting true

def State.doWakeup (state : State) (stop : Bool) : State :=
  let state := {state with isStop := state.isStop || stop}
  if state.currentState = .sleeping then {state with currentState := .wakeuped, place := state.place.signal}
  else {state with currentState := .wakeuped}

def step (state : State) : Action → State × Answer
  | .wakeup => (state.doWakeup false,.done)
  | .testStop => (if state.isStop then state else {state with testing := state.testing + 1},.done)
  | .setStop =>
    if state.testing = 0 then (state,.idle)
    else ({state with isStop := true, testing := state.testing - 1, stopping := state.stopping + 1},.done)
  | .wakeupStop =>
    if state.stopping = 0 then (state,.idle)
    else ({state.doWakeup true with stopping := state.stopping - 1},.done)
  | .doMillisleep =>
    if state.place ≠ .outside then (state,.idle)
    else if state.isStop then (state,.returned)
    else if state.currentState ≠ .wakeuped then
      ({state with currentState := .sleeping, place := .waiting false},.waits)
    else ({state with currentState := .running},.returned)
  | .resume =>
    if state.place = .outside then (state,.idle)
    else ({state with currentState := .running, place := .outside},.returned)

def Sound (state : State) : Prop := state.place = .waiting false → state.currentState = .sleeping

/-- A wake-up that no wait has used is still in the state of the thread. -/
def Awake (state : State) : Prop :=
  match state.place with
  | .outside => state.currentState = .wakeuped
  | .waiting signalled => signalled = true

variable {state : State}

theorem Sound.doWakeup (sound : Sound state) (stop : Bool) : Awake (state.doWakeup stop) := by
  unfold State.doWakeup Awake
  dsimp only
  split_ifs with sleeping
  · cases state.place <;> rfl
  · cases place : state.place with
    | outside => rfl
    | waiting signalled =>
      cases signalled with
      | true => rfl
      | false => exact absurd (sound place) sleeping

theorem Awake.sound (awake : Awake state) : Sound state := by
  intro waiting
  unfold Awake at awake
  rw [waiting] at awake
  cases awake

theorem step_sound (state : State) (act : Action) (sound : Sound state) : Sound (step state act).1 := by
  cases act with
  | wakeup => exact (sound.doWakeup false).sound
  | testStop | setStop =>
    dsimp only [step]
    split_ifs <;> exact sound
  | wakeupStop =>
    dsimp only [step]
    split_ifs
    · exact sound
    · exact (sound.doWakeup true).sound
  | doMillisleep =>
    dsimp only [step]
    split_ifs with inside stop fresh
    · exact sound
    · exact sound
    · exact fun _ => rfl
    · exact fun waiting => absurd waiting (by simp [not_not.mp inside])
  | resume =>
    dsimp only [step]
    split_ifs
    · exact sound
    · exact nofun

/-- Only a return of `do_millisleep` uses a wake-up. -/
theorem step_awake (act : Action) (awake : Awake state) :
    Awake (step state act).1 ∨ (step state act).2 = .returned := by
  have sound := awake.sound
  cases act with
  | wakeup => exact .inl (sound.doWakeup false)
  | testStop | setStop =>
    dsimp only [step]
    split_ifs <;> exact .inl awake
  | wakeupStop =>
    dsimp only [step]
    split_ifs
    · exact .inl awake
    · exact .inl (sound.doWakeup true)
  | doMillisleep =>
    dsimp only [step]
    split_ifs with inside stop fresh
    · exact .inl awake
    · exact .inr rfl
    · unfold Awake at awake
      rw [not_not.mp inside] at awake
      exact absurd awake fresh
    · exact .inr rfl
  | resume =>
    dsimp only [step]
    split_ifs
    · exact .inl awake
    · exact .inr rfl

theorem run_awake (actions : List Action) (awake : Awake state) :
    Awake (final step state actions) ∨ .returned ∈ outputs step state actions := by
  induction actions generalizing state with
  | nil => exact .inl awake
  | cons act rest ih =>
    rcases step_awake act awake with next | back
    · exact (ih next).imp_right (List.mem_cons_of_mem _)
    · exact .inr (List.mem_cons.mpr (.inl back.symm))

theorem step_isStop (state : State) (act : Action) (stop : state.isStop = true) :
    (step state act).1.isStop = true := by
  cases act <;> simp only [step,State.doWakeup] <;> split_ifs <;> simp_all

/-- In every interleaving, behind a completed wake-up the thread does not wait for a signal before a
`do_millisleep` has returned, and behind that of a `stop` none begins to wait. -/
theorem wakeups_kept (before after : List Action) (act : Action) :
    (act = .wakeup ∨ act = .wakeupStop → (step (final step .start before) act).2 = .done →
        (final step .start (before ++ act::after)).place = .waiting false →
        .returned ∈ outputs step (step (final step .start before) act).1 after) ∧
      ((step (final step .start before) .wakeupStop).2 = .done →
        (step (final step .start (before ++ .wakeupStop::after)) .doMillisleep).2 ≠ .waits) := by
  have sound : Sound (final step .start before) :=
    always Sound .start before (fun state action _ => step_sound state action) nofun
  generalize start : final step .start before = state at sound
  rw [final_append,final_append,start,final_cons,final_cons]
  constructor
  · rintro wakes done waiting
    have awake : Awake (step state act).1 := by
      rcases wakes with rfl | rfl
      · exact sound.doWakeup false
      · dsimp only [step] at done ⊢
        split_ifs at done ⊢
        exact sound.doWakeup true
    refine (run_awake after awake).resolve_left ?_
    unfold Awake
    rw [waiting]
    exact Bool.false_ne_true
  · intro done
    have stop : (step state .wakeupStop).1.isStop = true := by
      dsimp only [step] at done ⊢
      split_ifs at done ⊢
      simp only [State.doWakeup,Bool.or_true]
      split_ifs <;> rfl
    have still := always (·.isStop = true) _ after (fun state act _ => step_isStop state act) stop
    generalize final step (step state .wakeupStop).1 after = last at still
    dsimp only [step]
    split_ifs
    · exact nofun
    · exact nofun

end Mooon.Sys.Thread

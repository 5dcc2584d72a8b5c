import Mooon.Run

/-! A parent and a child that share a `ForkSynchronizer`: the child notifies at most once and
exits, with or without the destructor, and the parent waits again and again. The parent has closed
its own writing end, so the pipe ends when the child closes its end or exits. The calls of `pipe`,
`write` and `poll` do not fail. -/
namespace Mooon.Sys.ForkSynchronizer

def childProcessSuccess : Int := 20150327
def childProcessFailure : Int := 20121221
def timeout : Int := -1

/-- Of the results that were `written`, so many are `taken`. After a failure the parent waits for
the exit of the child. -/
structure State where
  notified : Option Bool
  destroyed : Bool
  exited : Bool
  written : List Int
  taken : Nat
  reaping : Bool

def start : State := ⟨none,false,false,[],0,false⟩

section
variable (state : State)

/-- There is something to read, or the end of the pipe. -/
def State.Readable : Prop :=
  state.taken < state.written.length ∨ state.destroyed = true ∨ state.exited = true
deriving Decidable

/-- An interruption only takes from the time that is left. -/
def timedPoll : Int := if state.Readable then 0 else -1

/-- Where less is read than a result, the function ends without a return. -/
def timedWaitChildProcessNotification : State × Option Int :=
  if timedPoll state = -1 then (state,some timeout)
  else match state.written[state.taken]? with
  | none => (state,none)
  | some result =>
    if result = childProcessSuccess then ({state with taken := state.taken + 1},some 0)
    else ({state with taken := state.taken + 1, reaping := true},some result)

def notifyParentProcess (result : Int) : State := {state with written := state.written ++ [result]}
def notifyParentSuccess : State := notifyParentProcess state childProcessSuccess
def notifyParentFailure : State := notifyParentProcess state childProcessFailure

inductive Action where
  | notify (success : Bool)
  | destroy
  | exit
  | wait

-- what the child or the parent is not there to do changes nothing
def step : Action → State × Option (Option Int)
  | .notify success =>
    if state.notified.isSome ∨ state.destroyed ∨ state.exited then (state,none)
    else
      ({if success then notifyParentSuccess state else notifyParentFailure state with
        notified := some success},none)
  | .destroy =>
    if state.destroyed ∨ state.exited then (state,none)
    else ({notifyParentFailure state with destroyed := true},none)
  | .exit => ({state with exited := true},none)
  | .wait =>
    if state.reaping ∧ ¬state.exited then (state,none)
    else
      let waited := timedWaitChildProcessNotification state
      (waited.1,some waited.2)

def reached (actions : List Action) : State := Run.final step start actions

/-- What the child did, as the parent has to be told. -/
def Told (answer : Option Int) : Prop :=
  if state.Readable then
    if state.notified = some true then answer = some 0
    else answer ≠ none ∧ answer ≠ some 0 ∧ answer ≠ some timeout
  else answer = some timeout
deriving Decidable

/-- Where the wait ends there is a result to take, and after a success it is the first. -/
def Unread : Prop :=
  state.Readable → state.taken < state.written.length ∧ (state.notified = some true → state.taken = 0)

end

def code (success : Bool) : Int := if success then childProcessSuccess else childProcessFailure

/-- The results in the pipe: the child's notification, and behind it that of the destructor. -/
def results (notified : Option Bool) (destroyed : Bool) : List Int :=
  (notified.map code).toList ++ if destroyed then [childProcessFailure] else []

def Written (state : State) : Prop := state.written = results state.notified state.destroyed

variable {state : State}

theorem wait_frame : (step state .wait).1.written = state.written ∧
    (step state .wait).1.notified = state.notified ∧
      (step state .wait).1.destroyed = state.destroyed := by
  simp only [step,timedWaitChildProcessNotification]
  repeat' split
  all_goals simp

theorem step_written (action : Action) (written : Written state) : Written (step state action).1 := by
  unfold Written at written ⊢
  cases action with
  | notify success =>
    rw [step]
    by_cases late : state.notified.isSome ∨ state.destroyed ∨ state.exited
    · rw [if_pos late]
      exact written
    · obtain ⟨silent,there⟩ := not_or.mp late
      have alive := Bool.eq_false_iff.mpr (not_or.mp there).1
      rw [Option.not_isSome_iff_eq_none.mp silent,alive] at written
      rw [if_neg late]
      cases success <;> simp [notifyParentSuccess,notifyParentFailure,notifyParentProcess,
        results,code,written,alive]
  | destroy =>
    rw [step]
    split_ifs with late
    · exact written
    · rw [Bool.eq_false_iff.mpr (not_or.mp late).1] at written
      simp [notifyParentFailure,notifyParentProcess,results,written]
  | exit => exact written
  | wait =>
    obtain ⟨same,notified,destroyed⟩ := wait_frame
    rw [same,notified,destroyed]
    exact written

theorem results_getElem {notified : Option Bool} {destroyed : Bool} {taken : Nat} {result : Int}
    (read : (results notified destroyed)[taken]? = some result) :
    result = if notified = some true ∧ taken = 0 then childProcessSuccess
      else childProcessFailure := by
  -- at most two results are in the pipe
  rcases notified with _ | _ | _ <;> cases destroyed <;> rcases taken with _ | _ | taken <;>
    simp_all [results,code]

theorem told_iff (written : Written state) :
    Told state (timedWaitChildProcessNotification state).2 ↔ Unread state := by
  unfold Unread
  by_cases readable : state.Readable
  · simp only [Told,timedWaitChildProcessNotification,timedPoll,readable,if_true,forall_const]
    rcases read : state.written[state.taken]? with _ | result
    · have finished := List.getElem?_eq_none_iff.mp read
      simp [Nat.not_lt_of_le finished]
    · have inside := (List.getElem?_eq_some_iff.mp read).1
      have same := results_getElem (written ▸ read)
      rw [same]
      by_cases success : state.notified = some true
      · by_cases first : state.taken = 0
        · rw [first] at inside
          simp [success,first,inside]
        · simp [success,first,childProcessSuccess,childProcessFailure]
      · simp [success,inside,childProcessFailure,childProcessSuccess,timeout]
  · simp [Told,timedWaitChildProcessNotification,timedPoll,readable]

/-- The parent is told what the child did exactly where a result is left for it. -/
theorem notification_iff (actions : List Action) :
    Told (reached actions) (timedWaitChildProcessNotification (reached actions)).2 ↔
      Unread (reached actions) :=
  told_iff (Run.always Written start actions (fun _ action _ => step_written action) rfl)

/-- After a success the destructor writes a failure, and a child that just exits leaves no answer. -/
theorem notification_lost :
    (timedWaitChildProcessNotification (reached [.notify true,.wait,.destroy])).2 =
        some childProcessFailure ∧
      ¬Told (reached [.notify true,.wait,.destroy])
        (timedWaitChildProcessNotification (reached [.notify true,.wait,.destroy])).2 ∧
      (timedWaitChildProcessNotification (reached [.exit])).2 = none ∧
      ¬Told (reached [.exit]) (timedWaitChildProcessNotification (reached [.exit])).2 := by
  decide

end Mooon.Sys.ForkSynchronizer

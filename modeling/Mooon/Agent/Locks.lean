import Mooon.Run
import Mooon.Mutex

/-! The locks around the report queue of `CAgentThread`. `put_message` and `get_message` hold
`_queue_lock` from their begin to their end, and inside them the operations of `CEpollableQueue`
hold its `_lock`, which `push_back` gives up while it waits for room. A step is what a thread does
between two of these points; the results of the system calls, and the thread that a signal wakes,
are part of the action. -/
namespace Mooon.Agent.Locks
open Function Run

inductive Thread where
  | agent
  | producer (number : Nat)
deriving DecidableEq

/-- How `timed_wait` ends: by a signal or without a cause, at its time, or with an exception. -/
inductive Waited where
  | woken
  | timedOut
  | failed
deriving DecidableEq

/-- What `put_message` is about to do. No result stands for an exception. -/
inductive PutPoint where
  | queueLock
  | lock
  | check
  | waiting
  | relock (waited : Waited)
  | push
  | unlock (result : Option Bool)
  | unlockQueue (result : Option Bool)
deriving DecidableEq

/-- What `get_message` is about to do; an empty queue gives no element. -/
inductive GetPoint (Element : Type) where
  | queueLock
  | lock
  | pop
  | unlock (result : Option (Option Element))
  | unlockQueue (result : Option (Option Element))
deriving DecidableEq

inductive Point (Element : Type) where
  | outside
  | put (element : Element) (millisecond : UInt32) (point : PutPoint)
  | get (point : GetPoint Element)
deriving DecidableEq

structure State (Element : Type) where
  queue : List Element
  pushWaiterNumber : Nat
  queueLock : Option Thread
  lock : Option Thread
  point : Thread → Point Element

def State.started {Element : Type} : State Element := ⟨[],0,none,none,fun _ => .outside⟩

/-- What `write` or `read` gives when the step has one, and the thread that a signal would wake. -/
structure Choice where
  succeeds : Bool
  signalled : Thread
deriving DecidableEq

inductive Action (Element : Type) where
  | put (number : Nat) (element : Element) (millisecond : UInt32)
  | heartbeat (element : Element)
  | get
  | advance (thread : Thread) (choice : Choice)
  | wake (thread : Thread) (waited : Waited)

inductive Returned (Element : Type) where
  | put (thread : Thread) (result : Option Bool)
  | got (result : Option (Option Element))
deriving DecidableEq

section
variable {Element : Type}

section
variable (thread : Thread) (next : Point Element) (capacity : Nat)

def call (point : Point Element) (state : State Element) : State Element :=
  match state.point thread with
  | .outside => {state with point := Function.update state.point thread point}
  | _ => state

def wake (waited : Waited) (state : State Element) : State Element :=
  match state.point thread with
  | .put element millisecond .waiting =>
    {state with point := Function.update state.point thread (.put element millisecond (.relock waited))}
  | _ => state

def behindWait : Waited → PutPoint
  | .woken => .check
  | .timedOut => .unlock (some false)
  | .failed => .unlock none

def takeQueueLock (state : State Element) : State Element :=
  if state.queueLock = none then
    {state with queueLock := some thread, point := Function.update state.point thread next}
  else state

def takeLock (state : State Element) : State Element :=
  if state.lock = none then {state with lock := some thread, point := Function.update state.point thread next}
  else state

def unlock (state : State Element) : State Element :=
  {state with lock := none, point := Function.update state.point thread next}

def unlockQueue (state : State Element) : State Element :=
  {state with queueLock := none, point := Function.update state.point thread .outside}

def check (thread : Thread) (element : Element) (millisecond : UInt32) (state : State Element) :
    State Element :=
  if capacity = state.queue.length then
    if millisecond = 0 then
      {state with
        point := Function.update state.point thread (.put element millisecond (.unlock (some false)))}
    else
      unlock thread (.put element millisecond .waiting)
        {state with pushWaiterNumber := state.pushWaiterNumber + 1}
  else {state with point := Function.update state.point thread (.put element millisecond .push)}

def relock (element : Element) (millisecond : UInt32) (waited : Waited) (state : State Element) :
    State Element :=
  if state.lock = none then
    {state with
      lock := some thread
      pushWaiterNumber := state.pushWaiterNumber - 1
      point := Function.update state.point thread (.put element millisecond (behindWait waited))}
  else state

/-- The element is in the queue also when `write` fails. -/
def push (element : Element) (millisecond : UInt32) (written : Bool) (state : State Element) :
    State Element :=
  {state with
    queue := state.queue ++ [element]
    point := Function.update state.point thread
      (.put element millisecond (.unlock (if written then some true else none)))}

def pop (choice : Choice) (state : State Element) : State Element :=
  match state.queue with
  | [] => {state with point := Function.update state.point thread (.get (.unlock (some none)))}
  | element::rest =>
    if choice.succeeds then
      let state := {state with
        queue := rest, point := Function.update state.point thread (.get (.unlock (some (some element))))}
      if 0 < state.pushWaiterNumber then wake choice.signalled .woken state else state
    else {state with point := Function.update state.point thread (.get (.unlock none))}

def advancePut (thread : Thread) (choice : Choice) (element : Element) (millisecond : UInt32)
    (state : State Element) : PutPoint → State Element × Option (Returned Element)
  | .queueLock => (takeQueueLock thread (.put element millisecond .lock) state,none)
  | .lock => (takeLock thread (.put element millisecond .check) state,none)
  | .check => (check capacity thread element millisecond state,none)
  | .waiting => (state,none)
  | .relock waited => (relock thread element millisecond waited state,none)
  | .push => (push thread element millisecond choice.succeeds state,none)
  | .unlock result => (unlock thread (.put element millisecond (.unlockQueue result)) state,none)
  | .unlockQueue result => (unlockQueue thread state,some (.put thread result))

def advanceGet (choice : Choice) (state : State Element) :
    GetPoint Element → State Element × Option (Returned Element)
  | .queueLock => (takeQueueLock thread (.get .lock) state,none)
  | .lock => (takeLock thread (.get .pop) state,none)
  | .pop => (pop thread choice state,none)
  | .unlock result => (unlock thread (.get (.unlockQueue result)) state,none)
  | .unlockQueue result => (unlockQueue thread state,some (.got result))

def step (connectTimeout : UInt32) (state : State Element) :
    Action Element → State Element × Option (Returned Element)
  | .put number element millisecond =>
    (call (.producer number) (.put element millisecond .queueLock) state,none)
  | .heartbeat element => (call .agent (.put element connectTimeout .queueLock) state,none)
  | .get => (call .agent (.get .queueLock) state,none)
  | .wake thread waited => (wake thread waited state,none)
  | .advance thread choice =>
    match state.point thread with
    | .outside => (state,none)
    | .put element millisecond point => advancePut capacity thread choice element millisecond state point
    | .get point => advanceGet thread choice state point

end

end

inductive Held where
  | nothing
  | queueLock
  | both
deriving DecidableEq

section
variable {Element : Type}

def PutPoint.held : PutPoint → Held
  | .queueLock => .nothing
  | .check | .push | .unlock _ => .both
  | .lock | .waiting | .relock _ | .unlockQueue _ => .queueLock

def GetPoint.held : GetPoint Element → Held
  | .queueLock => .nothing
  | .pop | .unlock _ => .both
  | .lock | .unlockQueue _ => .queueLock

def Point.held : Point Element → Held
  | .outside => .nothing
  | .put _ _ point => point.held
  | .get point => point.held

def Point.NeedsQueueLock (point : Point Element) : Prop := point.held ≠ .nothing

def Point.NeedsLock (point : Point Element) : Prop := point.held = .both

structure Locked (state : State Element) : Prop where
  queueLock : Mutex.Owned Point.NeedsQueueLock state.queueLock state.point
  lock : Mutex.Owned Point.NeedsLock state.lock state.point

variable {state : State Element} {thread : Thread} {next : Point Element}

theorem locked_started : Locked (State.started : State Element) := by
  constructor
  · exact Mutex.Owned.free fun thread needed => needed rfl
  · refine Mutex.Owned.free fun thread needed => ?_
    cases needed

section
variable (locked : Locked state)
include locked

theorem Locked.keeps {held : Held} (before : (state.point thread).held = held)
    (after : next.held = held) (queue : List Element) (pushWaiterNumber : Nat) :
    Locked ⟨queue,pushWaiterNumber,state.queueLock,state.lock,update state.point thread next⟩ := by
  have same := after.trans before.symm
  constructor
  · apply locked.queueLock.keeps
    rw [Point.NeedsQueueLock,Point.NeedsQueueLock,same]
  · apply locked.lock.keeps
    rw [Point.NeedsLock,Point.NeedsLock,same]

theorem Locked.takesLock (free : state.lock = none)
    (before : (state.point thread).held = .queueLock) (after : next.held = .both) {pushWaiterNumber : Nat} :
    Locked ⟨state.queue,pushWaiterNumber,state.queueLock,some thread,update state.point thread next⟩ := by
  constructor
  · apply locked.queueLock.keeps
    simp [Point.NeedsQueueLock,before,after]
  · exact (free ▸ locked.lock).takes after

theorem Locked.unlock (before : (state.point thread).held = .both)
    (after : next.held = .queueLock) (pushWaiterNumber : Nat) :
    Locked (unlock thread next {state with pushWaiterNumber}) := by
  constructor
  · apply locked.queueLock.keeps
    simp [Point.NeedsQueueLock,before,after]
  · apply locked.lock.releases before
    simp [Point.NeedsLock,after]

theorem Locked.takeQueueLock (before : (state.point thread).held = .nothing)
    (after : next.held = .queueLock) : Locked (takeQueueLock thread next state) := by
  unfold Locks.takeQueueLock
  split_ifs with free
  · constructor
    · apply (free ▸ locked.queueLock).takes
      simp [Point.NeedsQueueLock,after]
    · apply locked.lock.keeps
      simp [Point.NeedsLock,before,after]
  · exact locked

theorem Locked.takeLock (before : (state.point thread).held = .queueLock)
    (after : next.held = .both) : Locked (takeLock thread next state) := by
  unfold Locks.takeLock
  split_ifs with free
  · exact locked.takesLock free before after
  · exact locked

theorem Locked.unlockQueue (before : (state.point thread).held = .queueLock) :
    Locked (unlockQueue thread state) := by
  constructor
  · apply locked.queueLock.releases
    · simp [Point.NeedsQueueLock,before]
    · exact fun needed => needed rfl
  · have outside : (Point.outside : Point Element).held = .nothing := rfl
    apply locked.lock.keeps
    simp [Point.NeedsLock,before,outside]

theorem Locked.call (after : next.held = .nothing) : Locked (call thread next state) := by
  unfold Locks.call
  split
  · rename_i outside
    exact locked.keeps (by rw [outside]; rfl) after _ _
  · exact locked

theorem Locked.wake (waited : Waited) : Locked (wake thread waited state) := by
  unfold Locks.wake
  split
  · rename_i elem millisecond waiting
    exact locked.keeps (by rw [waiting]; rfl) rfl _ _
  · exact locked

theorem Locked.advancePut (cap : Nat) (choice : Choice) (elem : Element)
    (millisecond : UInt32) (point : PutPoint) (here : state.point thread = .put elem millisecond point) :
    Locked (advancePut cap thread choice elem millisecond state point).1 := by
  have held : (state.point thread).held = point.held := by rw [here]; rfl
  cases point with
  | queueLock => exact locked.takeQueueLock held rfl
  | lock => exact locked.takeLock held rfl
  | check =>
    dsimp only [Locks.advancePut]
    unfold check
    split_ifs
    · exact locked.keeps held rfl _ _
    · exact locked.unlock held rfl _
    · exact locked.keeps held rfl _ _
  | waiting => exact locked
  | relock waited =>
    dsimp only [Locks.advancePut]
    unfold relock
    split_ifs with free
    · apply locked.takesLock free held
      cases waited <;> rfl
    · exact locked
  | push => exact locked.keeps held rfl _ _
  | unlock res => exact locked.unlock held rfl _
  | unlockQueue res => exact locked.unlockQueue held

variable (choice : Choice)

theorem Locked.pop (here : (state.point thread).held = .both) : Locked (pop thread choice state) := by
  unfold Locks.pop
  split
  · exact locked.keeps here rfl _ _
  · split_ifs
    · dsimp only
      split_ifs
      · exact Locked.wake (locked.keeps here rfl _ _) _
      · exact locked.keeps here rfl _ _
    · exact locked.keeps here rfl _ _

theorem Locked.advanceGet (point : GetPoint Element)
    (here : state.point thread = .get point) : Locked (advanceGet thread choice state point).1 := by
  have held : (state.point thread).held = point.held := by rw [here]; rfl
  cases point with
  | queueLock => exact locked.takeQueueLock held rfl
  | lock => exact locked.takeLock held rfl
  | pop => exact locked.pop choice held
  | unlock res => exact locked.unlock held rfl _
  | unlockQueue res => exact locked.unlockQueue held

end

variable (cap : Nat) (connectTimeout : UInt32)

theorem Locked.step (locked : Locked state) (act : Action Element) :
    Locked (step cap connectTimeout state act).1 := by
  cases act with
  | put number elem millisecond | heartbeat elem | get => exact locked.call rfl
  | wake thread waited => exact locked.wake waited
  | advance thread choice =>
    dsimp only [Locks.step]
    split
    · exact locked
    · exact locked.advancePut cap choice _ _ _ ‹_›
    · exact locked.advanceGet choice _ ‹_›

theorem Locked.run (locked : Locked state) (acts : List (Action Element)) :
    Locked (final (Locks.step cap connectTimeout) state acts) :=
  always Locked state acts (fun _ act _ locked => locked.step cap connectTimeout act) locked

end

section
variable {Element : Type} (capacity : Nat) (connectTimeout : UInt32)

def Point.Waits (point : Point Element) : Prop :=
  ∃ element millisecond, point = .put element millisecond .waiting

def Waiting (state : State Element) (thread : Thread) : Prop := (state.point thread).Waits

/-- The agent's thread completes `get_message` in a run through which the call of the thread keeps waiting. -/
def GetsBeside (state : State Element) (thread : Thread) (actions : List (Action Element)) : Prop :=
  (∀ before after, actions = before ++ after →
    Waiting (Run.final (step capacity connectTimeout) state before) thread) ∧
  ∃ result, some (.got result) ∈ Run.outputs (step capacity connectTimeout) state actions

/-- A call waits for room in the full queue, and no message is taken out of it unless the call stops
waiting. -/
def Blocked (state : State Element) : Prop :=
  ∃ thread, Waiting state thread ∧ capacity = state.queue.length ∧
    ∀ actions, ¬ GetsBeside capacity connectTimeout state thread actions

def FindsRoom (state : State Element) (action : Action Element) : Prop :=
  ∀ thread choice element millisecond, action = .advance thread choice →
    state.point thread = .put element millisecond .check → millisecond ≠ 0 → capacity ≠ state.queue.length

variable {capacity connectTimeout} {state : State Element} {thread : Thread} {action : Action Element}

theorem got_inv {res : Option (Option Element)}
    (got : (step capacity connectTimeout state action).2 = some (.got res)) :
    ∃ thread, state.point thread = .get (.unlockQueue res) := by
  cases action with
  | advance thread choice =>
    refine ⟨thread,?_⟩
    dsimp only [step] at got
    split at got
    · cases got
    · rename_i elem millisecond point here
      cases point <;> cases got
    · rename_i point here
      cases point <;> cases got
      exact here
  | _ => cases got

theorem waiting_excludes (locked : Locked state) (waiting : Waiting state thread)
    (acts : List (Action Element)) : ¬ GetsBeside capacity connectTimeout state thread acts := by
  rintro ⟨waits,res,got⟩
  induction acts generalizing state with
  | nil => cases got
  | cons action rest ih =>
    rcases List.mem_cons.mp got with now | later
    · obtain ⟨other,leaving⟩ := got_inv now.symm
      obtain ⟨elem,millisecond,here⟩ := waiting
      -- both need the outer lock, so they are one thread, which is at two points
      have same : other = thread := by
        apply locked.queueLock.unique
        · simp [Point.NeedsQueueLock,leaving,Point.held,GetPoint.held]
        · simp [Point.NeedsQueueLock,here,Point.held,PutPoint.held]
      rw [same,here] at leaving
      cases leaving
    · apply ih (locked.step capacity connectTimeout action)
      · exact waits [action] rest rfl
      · intro before after split
        exact waits (action::before) after (by rw [split]; rfl)
      · exact later

variable {element : Element} {millisecond : UInt32}

theorem waits_put {point : PutPoint} : (Point.put element millisecond point).Waits ↔ point = .waiting := by
  simp [Point.Waits]

theorem not_waits_get {point : GetPoint Element} : ¬ (Point.get point).Waits := by
  simp [Point.Waits]

theorem update_waits {point : Thread → Point Element} {other : Thread} {next : Point Element}
    (goesOn : ¬ next.Waits)
    (waits : (update point other next thread).Waits) : (point thread).Waits := by
  by_cases own : thread = other
  · rw [own,update_self] at waits
    exact absurd waits goesOn
  · rwa [update_of_ne own] at waits

section
variable {other : Thread} {next : Point Element} {choice : Choice}

theorem call_waiting (goesOn : ¬ next.Waits) (waiting : Waiting (call other next state) thread) :
    Waiting state thread := by
  unfold call at waiting
  split at waiting
  · exact update_waits goesOn waiting
  · exact waiting

theorem wake_waiting {waited : Waited} (waiting : Waiting (wake other waited state) thread) :
    Waiting state thread := by
  unfold wake at waiting
  split at waiting
  · exact update_waits (by simp [waits_put]) waiting
  · exact waiting

theorem takeQueueLock_waiting (goesOn : ¬ next.Waits)
    (waiting : Waiting (takeQueueLock other next state) thread) : Waiting state thread := by
  unfold takeQueueLock at waiting
  split_ifs at waiting
  · exact update_waits goesOn waiting
  · exact waiting

theorem takeLock_waiting (goesOn : ¬ next.Waits) (waiting : Waiting (takeLock other next state) thread) :
    Waiting state thread := by
  unfold takeLock at waiting
  split_ifs at waiting
  · exact update_waits goesOn waiting
  · exact waiting

theorem pop_waiting (waiting : Waiting (pop other choice state) thread) : Waiting state thread := by
  unfold pop at waiting
  split at waiting
  · exact update_waits not_waits_get waiting
  · split_ifs at waiting
    · dsimp only at waiting
      split_ifs at waiting
      · exact update_waits not_waits_get (wake_waiting waiting)
      · exact update_waits not_waits_get waiting
    · exact update_waits not_waits_get waiting

theorem advanceGet_waiting {point : GetPoint Element}
    (waiting : Waiting (advanceGet other choice state point).1 thread) : Waiting state thread := by
  cases point with
  | queueLock => exact takeQueueLock_waiting not_waits_get waiting
  | lock => exact takeLock_waiting not_waits_get waiting
  | pop => exact pop_waiting waiting
  | unlock res => exact update_waits not_waits_get waiting
  | unlockQueue res => exact update_waits (by simp [Point.Waits]) waiting

theorem advancePut_waiting {point : PutPoint}
    (room : point = .check → millisecond ≠ 0 → capacity ≠ state.queue.length)
    (waiting : Waiting (advancePut capacity other choice element millisecond state point).1 thread) :
    Waiting state thread := by
  cases point with
  | queueLock => exact takeQueueLock_waiting (by simp [waits_put]) waiting
  | lock => exact takeLock_waiting (by simp [waits_put]) waiting
  | check =>
    dsimp only [advancePut] at waiting
    unfold check at waiting
    split_ifs at waiting with full zero
    · exact update_waits (by simp [waits_put]) waiting
    · exact absurd full (room rfl zero)
    · exact update_waits (by simp [waits_put]) waiting
  | waiting => exact waiting
  | relock waited =>
    dsimp only [advancePut] at waiting
    unfold relock at waiting
    split_ifs at waiting
    · refine update_waits ?_ waiting
      cases waited <;> simp [waits_put,behindWait]
    · exact waiting
  | push | unlock res => exact update_waits (by simp [waits_put]) waiting
  | unlockQueue res => exact update_waits (by simp [Point.Waits]) waiting

end

theorem step_waiting (waiting : Waiting (step capacity connectTimeout state action).1 thread)
    (room : FindsRoom capacity state action) : Waiting state thread := by
  cases action with
  | put number element millisecond | heartbeat element => exact call_waiting (by simp [waits_put]) waiting
  | get => exact call_waiting not_waits_get waiting
  | wake other waited => exact wake_waiting waiting
  | advance other choice =>
    dsimp only [step] at waiting
    split at waiting
    · exact waiting
    · rename_i element millisecond point here
      refine advancePut_waiting ?_ waiting
      rintro rfl waits
      exact room other choice element millisecond rfl here waits
    · exact advanceGet_waiting waiting

theorem check_blocked (locked : Locked state) {choice : Choice}
    (here : state.point thread = .put element millisecond .check) (waits : millisecond ≠ 0)
    (full : capacity = state.queue.length) :
    Blocked capacity connectTimeout (step capacity connectTimeout state (.advance thread choice)).1 := by
  have after := locked.step capacity connectTimeout (.advance thread choice)
  have next : (step capacity connectTimeout state (.advance thread choice)).1 =
      unlock thread (.put element millisecond .waiting)
        {state with pushWaiterNumber := state.pushWaiterNumber + 1} := by
    dsimp only [step]
    rw [here]
    dsimp only [advancePut]
    rw [check,if_pos full,if_neg waits]
  have waiting : Waiting (step capacity connectTimeout state (.advance thread choice)).1 thread := by
    rw [next]
    exact ⟨element,millisecond,update_self _ _ _⟩
  refine ⟨thread,waiting,?_,waiting_excludes after waiting⟩
  rw [next]
  exact full

/-- No state of a run is blocked if and only if each call that may wait finds room whenever it looks. -/
theorem consumer_unblocked_iff (capacity : Nat) (connectTimeout : UInt32) (actions : List (Action Element)) :
    (∀ before after, actions = before ++ after →
      ¬ Blocked capacity connectTimeout (final (step capacity connectTimeout) .started before)) ↔
    Run.Meets (FindsRoom capacity) (step capacity connectTimeout) .started actions := by
  constructor
  · intro unblocked
    refine (meets_iff _ _).mpr ?_
    rintro before _ after split thread choice element millisecond rfl here waits full
    apply unblocked (before ++ [.advance thread choice]) after (by simp [split])
    rw [final_append]
    exact check_blocked (locked_started.run capacity connectTimeout before) here waits full
  · rintro met before after rfl ⟨thread,waiting,-⟩
    have begun := meets_take _ before after met
    refine invariant (fun state => ∀ thread, ¬ Waiting state thread) ?_ _ _ ?_ begun thread waiting
    · intro state action calm room thread waiting
      exact calm thread (step_waiting waiting room)
    · rintro thread ⟨element,millisecond,here⟩
      cases here

def turns (number count : Nat) : List (Action Unit) :=
  List.replicate count (.advance (.producer number) ⟨true,.agent⟩)

def secondWaits : List (Action Unit) := .put 0 () 1000 :: turns 0 6 ++ .put 1 () 1000 :: turns 1 3

theorem second_blocks : Blocked 1 1000 (final (step 1 1000) .started secondWaits) := by
  have waiting : Waiting (final (step 1 1000) .started secondWaits) (.producer 1) := ⟨(),1000,by decide⟩
  exact ⟨.producer 1,waiting,by decide,waiting_excludes (locked_started.run 1 1000 secondWaits) waiting⟩

end

end Mooon.Agent.Locks

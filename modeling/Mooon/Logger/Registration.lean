import Mooon.Logger.LogThread

/-! Whether a logger stays with the log thread. `close_logfile` takes it out of the epoll set and
only `create_logfile` puts it there again, so that a failure between the two, or a failed write,
leaves it out for good. -/
namespace Mooon.Logger
open List Option Run

/-- The logger is not destroyed: not by `destroy`, and not by a line whose length wraps to that of a
stop message. -/
def Undestroyed : Action → Prop
  | .log length => length ≠ 0
  | .destroy | .wakeDestroy => False
  | _ => True

instance : (action : Action) → Decidable (Undestroyed action)
  | .log length => inferInstanceAs (Decidable (length ≠ 0))
  | .destroy | .wakeDestroy => inferInstanceAs (Decidable False)
  | .wake _ | .execute _ | .write _ => inferInstanceAs (Decidable True)

/-- A file that is made anew can be opened and sized, and `writev` does not fail. -/
def Unfailing (state : State) : Action → Prop
  | .execute calls => Executes state → Remakes calls state → calls.Made
  | .write result => ∀ batch ∈ state.batch, 0 < batch.number → result ≠ .failed
  | _ => True

instance (state : State) : (action : Action) → Decidable (Unfailing state action)
  | .execute calls => inferInstanceAs (Decidable (Executes state → Remakes calls state → calls.Made))
  | .write result => inferInstanceAs (Decidable (∀ batch ∈ state.batch, 0 < batch.number → result ≠ .failed))
  | .log _ | .wake _ | .destroy | .wakeDestroy => inferInstanceAs (Decidable True)

def Removable (queueSize : Nat) (state : State) : Prop :=
  ∃ actions : List Action, (∀ action ∈ actions, OfLogThread action) ∧
    (Run.final (step queueSize) state actions).queue.length < state.queue.length

structure Awake (queueSize : Nat) (state : State) : Prop where
  registered : state.registered = true
  executes : state.queue ≠ [] → state.batch = none → Executes state
  removable : state.queue ≠ [] → Removable queueSize state

structure Serving (state : State) : Prop where
  defined : state.undefined = false
  registered : state.registered = true
  opened : state.fd = true
  queued : ∀ message ∈ state.queue, isLine message = true
  waiting : ∀ message ∈ state.waiting, isLine message = true
  batched : ∀ batch ∈ state.batch, batch.toDestroy = false ∧ none ∉ batch.iov.take batch.number
  signals : state.signals = state.queue.length + (state.batch.map Batch.number).getD 0

theorem created_serving {size : UInt32} : Serving (.created size) := by
  constructor <;> simp [State.created]

variable {state : State}

section
variable (serving : Serving state)
include serving

variable {msg : Message}

theorem pushLine_serving (line : isLine msg = true) : Serving (pushLine msg state) := by
  refine {serving with queued := ?_, signals := ?_}
  · intro other mem
    rcases mem_append.mp mem with earlier | same
    · exact serving.queued other earlier
    · rw [mem_singleton.mp same,line]
  · simp only [pushLine,pushBack,length_append,length_singleton,serving.signals]
    omega

theorem waiting_serving {allocated : Nat} {waiting : List Message}
    (lines : ∀ msg ∈ waiting, isLine msg = true) : Serving {state with allocated, waiting} :=
  {serving with waiting := lines}

theorem doLog_serving {queueSize : Nat} {length : UInt16}
    (line : length ≠ 0) : Serving (doLog queueSize length state) := by
  have kind : isLine ⟨state.allocated + 1,length⟩ = true := by simpa [isLine] using line
  simp only [doLog]
  split_ifs
  · exact waiting_serving serving serving.waiting
  · apply waiting_serving serving
    intro other mem
    rcases mem_append.mp mem with earlier | same
    · exact serving.waiting other earlier
    · rw [mem_singleton.mp same,kind]
  · exact pushLine_serving (waiting_serving serving serving.waiting) kind

theorem wake_serving {queueSize : Nat} : Serving (wake queueSize msg state) := by
  unfold wake
  split_ifs with woken
  · apply pushLine_serving _ (serving.waiting msg woken.1)
    exact waiting_serving serving fun other mem => serving.waiting other (mem_of_mem_erase mem)
  · exact serving

theorem collect_serving (idle : state.batch = none) : Serving (collect state) := by
  have lines : ∀ msg ∈ state.queue.take logNumberWritedOnce, isLine msg = true :=
    fun msg taken => serving.queued msg (mem_of_mem_take taken)
  have stops : (state.queue.take logNumberWritedOnce).filter (!isLine ·) = [] := by
    rw [filter_eq_nil_iff]
    intro msg taken
    simp [lines msg taken]
  have every :=
    filter_eq_self.mpr lines
  refine {serving with queued := ?_, batched := ?_, signals := ?_}
  · intro msg left
    exact serving.queued msg (mem_of_mem_drop left)
  · rintro batch ⟨⟩
    refine ⟨by simp only [stops,isEmpty_nil,Bool.not_true],?_⟩
    intro unassigned
    obtain ⟨msg,taken,empty⟩ := mem_map.mp (mem_of_mem_take unassigned)
    simp [cell,lines msg taken] at empty
  · have signals := serving.signals
    simp only [idle,map_none,getD_none] at signals
    simp only [collect,stops,every,map_some,getD_some,length_nil,length_take,length_drop]
    omega

theorem bytes_serving {currentBytes : UInt32} : Serving {state with currentBytes} :=
  {serving with}

theorem execute_serving {calls : FileCalls}
    (unfailing : Unfailing state (.execute calls)) : Serving (execute calls state) := by
  unfold execute
  split_ifs with ready
  · obtain ⟨currentBytes,collected⟩ := attempt_made serving.registered serving.opened (unfailing ready)
    rw [collected]
    exact collect_serving (bytes_serving serving) ready.2.2
  · exact serving

end

theorem closeLogfile_unregistered (out : state.registered = false) :
    (closeLogfile state).registered = false := by
  unfold closeLogfile
  split_ifs
  · rfl
  · exact out

theorem execute_failed {calls : FileCalls} (serving : Serving state) (ready : Executes state)
    (remakes : Remakes calls state) (failed : ¬ calls.Made) : (execute calls state).registered = false := by
  obtain ⟨after,thrown,out⟩ := prewrite_failed serving.opened remakes failed
  rw [execute,if_pos ready,attempt,thrown]
  exact closeLogfile_unregistered out

theorem write_serving (res : Writev) (serving : Serving state) (unfailing : Unfailing state (.write res)) :
    Serving (write res state) ∧ (write res state).batch = none ∧ (write res state).queue = state.queue := by
  unfold write
  split
  · rename_i idle
    exact ⟨serving,idle,rfl⟩
  · rename_i batch there
    obtain ⟨continues,assigned⟩ := serving.batched batch there
    have written : ¬ (0 < batch.number ∧ res = .failed) := by
      intro failed
      exact unfailing batch there failed.1 failed.2
    have signals := serving.signals
    simp only [there] at signals
    rw [batchWrite,if_neg assigned,if_neg written,if_neg (by simp [continues])]
    refine ⟨{serving with batched := ?_, signals := ?_},rfl,rfl⟩
    · rintro other ⟨⟩
    · simp [signals]

section
variable (serving : Serving state)
include serving

theorem write_failed {batch : Batch} (there : state.batch = some batch)
    (some : 0 < batch.number) : (write .failed state).registered = false := by
  obtain ⟨-,assigned⟩ := serving.batched batch there
  rw [write,there]
  simp only [batchWrite,if_neg assigned,some,serving.opened]
  rfl

variable {action : Action} {queueSize : Nat}

theorem step_serving
    (undestroyed : Undestroyed action) (unfailing : Unfailing state action) :
    Serving (step queueSize state action).1 := by
  unfold step
  rw [if_neg (by simp [serving.defined])]
  cases action with
  | log length => exact doLog_serving serving undestroyed
  | wake msg => exact wake_serving serving
  | destroy | wakeDestroy => exact undestroyed.elim
  | execute calls => exact execute_serving serving unfailing
  | write res => exact (write_serving res serving unfailing).1

theorem step_failed
    (failing : ¬ Unfailing state action) : (step queueSize state action).1.registered = false := by
  unfold step
  rw [if_neg (by simp [serving.defined])]
  cases action with
  | log length | wake msg | destroy | wakeDestroy => exact absurd trivial failing
  | execute calls =>
    simp only [Unfailing,Classical.not_imp] at failing
    exact execute_failed serving failing.1 failing.2.1 failing.2.2
  | write res =>
    simp only [Unfailing,not_forall,not_not] at failing
    obtain ⟨batch,there,some,rfl⟩ := failing
    exact write_failed serving there some

theorem executes_of_serving (queued : state.queue ≠ [])
    (idle : state.batch = none) : Executes state := by
  have signals := serving.signals
  have some := length_pos_iff.mpr queued
  exact ⟨serving.registered,by omega,idle⟩

variable {queueSize : Nat}

theorem awake_of_serving : Awake queueSize state := by
  refine ⟨serving.registered,executes_of_serving serving,?_⟩
  intro queued
  obtain ⟨served,idle,same⟩ := write_serving .complete serving fun _ _ _ => nofun
  have ready := executes_of_serving served (same ▸ queued) idle
  obtain ⟨currentBytes,collected⟩ :=
    attempt_made served.registered served.opened fun _ => usual_made
  refine ⟨[.write .complete,.execute usual],by simp [OfLogThread],?_⟩
  have reached : final (step queueSize) state [.write .complete,.execute usual] =
      execute usual (write .complete state) := by
    simp [step,serving.defined,served.defined]
  have some := length_pos_iff.mpr queued
  rw [reached,execute,if_pos ready,collected]
  simp only [collect,same,length_drop,logNumberWritedOnce]
  omega

end

theorem not_removable (out : state.registered = false) (idle : state.batch = none) :
    ¬ Removable queueSize state := by
  intro ⟨acts,own,fewer⟩
  have rests : ∀ action, OfLogThread action → (step queueSize state action).1 = state := by
    intro action thread
    cases action with
    | execute calls => simp [step,execute,Executes,out]
    | write res => simp [step,write,idle]
    | _ => exact thread.elim
  have same : final (step queueSize) state acts = state := by
    induction acts with
    | nil => rfl
    | cons action rest ih =>
      obtain ⟨first,later⟩ := forall_mem_cons.mp own
      rw [final_cons,rests action first] at fewer ⊢
      exact ih later fewer
  rw [same] at fewer
  exact Nat.lt_irrefl _ fewer

theorem awake_iff_unfailing (serving : Serving state)
    (undestroyed : Undestroyed action) : Awake queueSize (step queueSize state action).1 ↔
      Unfailing state action := by
  constructor
  · intro awake
    by_contra failing
    exact Bool.noConfusion ((step_failed serving failing).symm.trans awake.registered)
  · intro unfailing
    exact awake_of_serving (step_serving serving undestroyed unfailing)

theorem stays_awake_iff (queueSize : Nat) (size : UInt32) (actions : List Action)
    (undestroyed : ∀ action ∈ actions, Undestroyed action) :
    Run.Meets (fun state action => Awake queueSize (step queueSize state action).1) (step queueSize)
        (.created size) actions ↔ Run.Meets Unfailing (step queueSize) (.created size) actions := by
  apply meets_congr Serving _ actions
  · intro state action member serving awake
    have unfailing := (awake_iff_unfailing serving (undestroyed action member)).mp awake
    exact step_serving serving (undestroyed action member) unfailing
  · exact fun state action member serving => awake_iff_unfailing serving (undestroyed action member)
  · exact created_serving

/-- The first `fstat` and a `rename` fail, and a write is short. -/
def tolerated : List Action :=
  [.log 5,.execute ⟨none,0,[],false,none⟩,.write (.short 3),.log 6,.log 7,
    .execute ⟨some 1,0,[false],true,some 0⟩,
    .wake ⟨3,7⟩,.write .complete]

theorem stays_awake_tolerated : (final (step 1) (.created 0) tolerated).queue = [⟨3,7⟩] ∧
    Run.Meets (fun state action => Awake 1 (step 1 state action).1) (step 1) (.created 0) tolerated :=
  ⟨by decide,(stays_awake_iff 1 0 tolerated (by decide)).mpr (by decide)⟩

/-- One `writev` fails. The next line fills the queue, and the thread of the third waits forever. -/
def failedOnce : List Action := [.log 5,.execute usual,.write .failed,.log 6,.log 7]

theorem silenced : (∀ action ∈ failedOnce, Undestroyed action) ∧
    (final (step 1) (.created 0) failedOnce).registered = false ∧
    (final (step 1) (.created 0) failedOnce).waiting = [⟨3,7⟩] ∧
    isFull 1 (final (step 1) (.created 0) failedOnce) = true ∧
    ¬ Removable 1 (final (step 1) (.created 0) failedOnce) :=
  ⟨by decide,by decide,by decide,by decide,not_removable (by decide) (by decide)⟩

end Mooon.Logger

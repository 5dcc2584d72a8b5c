import Mooon.Agent.Stream

/-! What the agent's thread waits for. While the connection stands, the report queue is registered
for input or the connector for output at every wait: the queue leaves its place only to the
connector, and the connector gives up its interest in output only after it has found the queue empty
and registered it again. -/
namespace Mooon.Agent
open Function

/-- No call of `epoll_ctl` fails. -/
def Controlled : Action → Prop
  | .connect _ control | .handle _ _ control | .send _ control => control.first = true ∧ control.second = true
  | _ => True

instance (action : Action) : Decidable (Controlled action) := by
  cases action <;> unfold Controlled <;> infer_instance

def registered (state : State) (source : Source) (kind : Events → Bool) : Bool :=
  (state.watch source).kernel.any kind

def Agrees (watch : Source → Watch) : Prop := ∀ source, (watch source).epollEvents = (watch source).kernel

structure Attentive (state : State) : Prop where
  agrees : Agrees state.watch
  sending : ∀ rest, state.phase = .sending rest → state.machine.remainSize = 0
  listens : state.established = true → (∀ rest, state.phase ≠ .sending rest) →
    registered state .queue Events.input = true ∨ registered state .connector Events.output = true
  partly : state.machine.remainSize ≠ 0 → registered state .connector Events.output = true

variable {state : State}

theorem Agrees.update {watch : Source → Watch} (agrees : Agrees watch) (source : Source)
    (events : Option Events) : Agrees (update watch source ⟨events,events⟩) := by
  intro other
  by_cases same : other = source
  · simp [same]
  · simpa [same] using agrees other

theorem setEvents_opened (agrees : Agrees state.watch) (source : Source) (opened : isOpen state source = true)
    (events : Events) : setEvents source events true state =
      some {state with watch := update state.watch source ⟨some events,some events⟩} := by
  rw [setEvents,if_neg (by simp [opened]),if_pos rfl]
  split_ifs with there
  · have same : state.watch source = ⟨some events,some events⟩ := by
      rw [← there,Watch.mk.injEq]
      exact ⟨rfl,(agrees source).symm⟩
    rw [← same,update_eq_self]
  · rfl

theorem delEvents_opened {source : Source} (opened : isOpen state source = true) :
    delEvents source true state =
    some {state with watch := update state.watch source ⟨none,none⟩} := by
  rw [delEvents,if_neg (by simp [opened]),if_pos rfl]

theorem after_ne_sending (batch rest : List Event) : after batch ≠ .sending rest := by
  intro same
  cases batch <;> cases same

theorem Attentive.rephased (attentive : Attentive state)
    (before : ∀ rest, state.phase ≠ .sending rest) {phase : Phase}
    (later : ∀ rest, phase ≠ .sending rest) : Attentive {state with phase} :=
  ⟨attentive.agrees,fun rest sending => absurd sending (later rest),
    fun held _ => attentive.listens held before,attentive.partly⟩

variable (rest : List Event)

theorem waiting_ne_sending : Phase.waiting ≠ .sending rest := by
  intro same
  cases same

theorem connecting_ne_sending : Phase.connecting ≠ .sending rest := by
  intro same
  cases same

theorem handling_ne_sending (batch rest : List Event) : Phase.handling batch ≠ .sending rest := by
  intro same
  cases same

section
variable (agrees : Agrees state.watch)
include agrees

section
variable (held : state.established = true)
include held

variable {rest : List Event}

theorem readWrite_attentive :
    Attentive (conclude .connector .readWrite true rest state) := by
  rw [conclude,applyResult,setEvents_opened agrees .connector held]
  have writes : registered {state with
      watch := update state.watch .connector ⟨some epollInOut,some epollInOut⟩
      phase := after rest} .connector Events.output = true := by
    simp [registered,epollInOut]
  exact ⟨agrees.update _ _,fun other sending => absurd sending (after_ne_sending rest other),
    fun _ _ => .inr writes,fun _ => writes⟩

theorem read_attentive
    (idle : state.machine.remainSize = 0) (reads : registered state .queue Events.input = true) :
    Attentive (conclude .connector .read true rest state) := by
  rw [conclude,applyResult,setEvents_opened agrees .connector held]
  refine ⟨agrees.update _ _,fun other sending => absurd sending (after_ne_sending rest other),
    fun _ _ => .inl ?_,
    fun partly => absurd idle partly⟩
  simpa [registered] using reads

theorem close_attentive :
    Attentive (conclude .connector .close true rest state) := by
  have opened : isOpen state .connector = true := held
  simp only [conclude,applyResult,delEvents_opened opened,held]
  exact ⟨(agrees.update .connector none).update .connector none,
    fun other sending => absurd sending (after_ne_sending rest other),fun opened => Bool.noConfusion opened,
    fun partly => absurd rfl partly⟩

end

end

variable {sent : Sent}

theorem continueSend_kept : ∃ after res, continueSend sent state = (after,res) ∧ after.watch = state.watch ∧
      after.established = state.established ∧ (res = none ∨ res = some (progress after)) := by
  cases sent with
  | failed => exact ⟨_,_,rfl,rfl,rfl,.inl rfl⟩
  | wouldBlock | bytes offered => exact ⟨_,_,rfl,rfl,rfl,.inr rfl⟩

variable {rest : List Event}

theorem reset_attentive (agrees : Agrees state.watch) :
    Attentive {reset state with phase := .sending rest} :=
  ⟨agrees,fun _ _ => rfl,fun _ idle => absurd rfl (idle rest),fun partly => absurd rfl partly⟩

variable {control : Control}

theorem sentOne_attentive (agrees : Agrees state.watch) (held : state.established = true)
    (succeeds : control.second = true) : Attentive (sentOne control rest (continueSend sent state)) := by
  obtain ⟨after,res,continued,watch,same,outcome⟩ := continueSend_kept
  have agrees := watch ▸ agrees
  have held := same.trans held
  rw [continued,sentOne,succeeds]
  rcases outcome with rfl | rfl
  · exact close_attentive agrees held
  · unfold progress
    split_ifs
    · exact reset_attentive agrees
    · exact readWrite_attentive agrees held

theorem beginOutput_attentive (agrees : Agrees state.watch) (held : state.established = true)
    (succeeds : control.second = true) : Attentive (beginOutput sent control rest state) := by
  unfold beginOutput
  split_ifs
  · exact reset_attentive agrees
  · exact sentOne_attentive agrees held succeeds

theorem sendNext_attentive (agrees : Agrees state.watch) (held : state.established = true)
    (idle : state.machine.remainSize = 0)
    (first : control.first = true) (second : control.second = true) :
    Attentive (sendNext sent control rest state) := by
  unfold sendNext
  split
  · rw [first,setEvents_opened agrees .queue rfl,second]
    refine read_attentive ?_ ?_ idle (by simp [registered,epollIn])
    · exact agrees.update .queue (some epollIn)
    · exact held
  · refine sentOne_attentive ?_ ?_ second
    · exact agrees
    · exact held

theorem handleInput_cases {got : Received} : handleInput got = .none ∨ handleInput got = .close := by
  cases got with
  | bytes accepted => cases accepted <;> simp [handleInput]
  | _ => simp [handleInput]

section
variable (attentive : Attentive state)
include attentive

variable {rest : List Event}

theorem handleQueue_attentive
    (first : control.first = true) (second : control.second = true) :
    Attentive (handleQueue control rest state) := by
  cases held : state.established with
  | true =>
    have opened : isOpen state .connector = true := held
    rw [handleQueue,first,setEvents_opened attentive.agrees .connector opened,second]
    have writes : registered {state with
        watch := update (update state.watch .connector ⟨some epollInOut,some epollInOut⟩) .queue
          ⟨none,none⟩
        phase := after rest} .connector Events.output = true := by
      simp [registered,epollInOut]
    exact ⟨(attentive.agrees.update _ _).update _ _,
      fun other sending => absurd sending (after_ne_sending rest other),
      fun _ _ => .inr writes,fun _ => writes⟩
  | false =>
    have shut : setEvents .connector epollInOut true state = some state := by
      simp [setEvents,isOpen,held]
    rw [handleQueue,first,shut,second]
    simp only [conclude,applyResult,delEvents,isOpen]
    refine ⟨attentive.agrees.update _ _,fun other sending => absurd sending (after_ne_sending rest other),
      fun opened => Bool.noConfusion (held.symm.trans opened),fun partly => ?_⟩
    simpa [registered] using attentive.partly partly

theorem handleEvent_attentive {event : Event}
    (opened : Source.connector ∈ (event::rest).map Event.source → state.established = true)
    (before : ∀ rest, state.phase ≠ .sending rest) {got : Received}
    (first : control.first = true) (second : control.second = true) :
    Attentive (handleEvent got sent control rest state event) := by
  cases event with
  | queue => exact handleQueue_attentive attentive first second
  | connector events =>
    have held := opened List.mem_cons_self
    simp only [handleEvent,handleConnector,second]
    split_ifs
    · cases handleInput_cases with
      | inl none =>
        rw [none]
        exact attentive.rephased before (after_ne_sending rest)
      | inr closes =>
        rw [closes]
        exact close_attentive attentive.agrees held
    · exact beginOutput_attentive attentive.agrees held second
    · exact close_attentive attentive.agrees held

theorem connectCenter_attentive (before : ∀ rest, state.phase ≠ .sending rest)
    {made : Bool} (first : control.first = true) : Attentive (connectCenter made control state) := by
  simp only [connectCenter]
  split_ifs
  · exact attentive.rephased before waiting_ne_sending
  · have agrees : Agrees {state with established := true, phase := .waiting}.watch := attentive.agrees
    rw [first,setEvents_opened agrees .connector rfl]
    have writes : registered {state with
        watch := update state.watch .connector ⟨some epollInOut,some epollInOut⟩} .connector Events.output =
          true := by
      simp [registered,epollInOut]
    exact ⟨attentive.agrees.update _ _,fun rest sending => absurd sending (waiting_ne_sending rest),
      fun _ _ => .inr writes,fun _ => writes⟩
  · exact attentive

theorem put_attentive (queueSize : Nat) (packet : Packet) :
    Attentive (putMessage queueSize packet state) := by
  unfold putMessage
  split_ifs
  · exact {attentive with}
  · exact attentive

end

theorem step_attentive {queueSize : Nat} {act : Action} (placed : Placed state)
    (attentive : Attentive state) (controlled : Controlled act) : Attentive (step queueSize state act).1 := by
  have moved := step_moves queueSize state act
  generalize (step queueSize state act).1 = next at moved ⊢
  cases moved with
  | rests => exact attentive
  | puts packet => exact put_attentive attentive queueSize packet
  | connects made control phase => exact connectCenter_attentive attentive (by simp [phase]) controlled.1
  | timesOut heartbeat phase =>
    have same : (putMessage queueSize heartbeat state).phase = state.phase := by
      unfold putMessage
      split_ifs <;> rfl
    exact (put_attentive attentive queueSize heartbeat).rephased (by simp [same,phase]) connecting_ne_sending
  | reports batch phase => exact attentive.rephased (by simp [phase]) (handling_ne_sending batch)
  | handles got sent control event rest phase =>
    rw [Placed,phase] at placed
    exact handleEvent_attentive attentive placed.2 (by simp [phase]) controlled.1 controlled.2
  | sends sent control rest phase =>
    rw [Placed,phase] at placed
    exact sendNext_attentive attentive.agrees placed.2.2.1 (attentive.sending rest phase) controlled.1
      controlled.2

theorem started_attentive : Attentive .started := by
  refine ⟨?_,nofun,nofun,fun partly => absurd rfl partly⟩
  intro source
  cases source <;> rfl

/-- Whether or not anything is queued, one of the two is registered at every wait; with a message
partly sent it is the connector. -/
theorem never_sleeps (queueSize : Nat) (actions : List Action)
    (controlled : ∀ action ∈ actions, Controlled action)
    (state : State) (reached : Run.final (step queueSize) .started actions = state)
    (waits : state.phase = .waiting) (established : state.established = true) :
    (registered state .queue Events.input = true ∨ registered state .connector Events.output = true) ∧
      (state.machine.remainSize ≠ 0 → registered state .connector Events.output = true) := by
  obtain ⟨-,attentive⟩ := Run.always (fun state => Flowing state ∧ Attentive state) .started actions
    (fun state action member holds => ⟨step_flowing queueSize state action holds.1,by
      obtain ⟨⟨-,-,-,-,placed⟩,attentive⟩ := holds
      exact step_attentive placed attentive (controlled action member)⟩) ⟨started_flowing,started_attentive⟩
  rw [reached] at attentive
  exact ⟨attentive.listens established (by simp [waits]),attentive.partly⟩

/-- A heartbeat fills the queue, its event and the connector's come in one batch, and the message is
partly sent. -/
def interrupted : List Action :=
  [.connect true ⟨true,true⟩,.wait [.connector ⟨false,true⟩],.handle .wouldBlock .wouldBlock ⟨true,true⟩,
    .send .wouldBlock ⟨true,true⟩,.connect true ⟨true,true⟩,.timeout ⟨1,[7],by decide⟩,.connect true
      ⟨true,true⟩,
    .wait [.queue,.connector ⟨false,true⟩],.handle .wouldBlock .wouldBlock ⟨true,true⟩,
    .handle .wouldBlock .wouldBlock ⟨true,true⟩,.send (.bytes 3) ⟨true,true⟩,.put ⟨2,[],by decide⟩,
    .connect true ⟨true,true⟩]

theorem never_sleeps_interrupted : (Run.final (step 1) .started interrupted).machine.remainSize = 6 ∧
      registered (Run.final (step 1) .started interrupted) .connector Events.output = true :=
  ⟨by decide,(never_sleeps 1 interrupted (by decide) _ rfl (by decide) (by decide)).2 (by decide)⟩

end Mooon.Agent

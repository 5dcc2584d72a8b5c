import Mooon.Logger.LogThread
import Mathlib.Data.List.Nodup

/-! The lines of a logger are written once and in the order of the queue. The stop message of
`destroy` is to be the last one queued: then the lines of a batch are its first cells, and the
logger is removed with an empty queue. -/
namespace Mooon.Logger
open List Option Run

def Succeeding : Action → Prop
  | .execute calls => calls.Made
  | .write result => result = .complete
  | _ => True

instance (action : Action) : Decidable (Succeeding action) := by
  cases action <;> unfold Succeeding <;> infer_instance

/-- No line is logged after `destroy` has begun, none has a length that wraps to zero, and no thread
waits for room when the stop message is queued. -/
def Orderly (queueSize : Nat) (state : State) : Action → Prop
  | .log length => length ≠ 0 ∧ state.destroying = false
  | .destroy | .wakeDestroy => isFull queueSize state = false → state.waiting = []
  | _ => True

instance (queueSize : Nat) (state : State) (action : Action) :
    Decidable (Orderly queueSize state action) := by
  cases action <;> unfold Orderly <;> infer_instance

structure ExactlyOnce (state : State) : Prop where
  defined : state.undefined = false
  inOrder : state.written <+: state.pushed
  distinct : state.pushed.Nodup
  beforeRemoval : state.removed = true → state.written = state.pushed
  freedOnce : ∀ id ∈ List.range' 1 state.allocated, state.freed.count id ≤ 1
  freedAll : state.removed = true → ∀ id ∈ List.range' 1 state.allocated, state.freed.count id = 1

def Closed (state : State) : Prop := state.destroying = true ∧ state.stopWaiting = false

def inBatch (state : State) : List Message := (state.batch.map fun batch => batch.iov.reduceOption).getD []

structure Delivering (state : State) : Prop where
  defined : state.undefined = false
  begun : state.stopWaiting = true → state.destroying = true
  tidy : Tidy state.queue
  closing : ∀ message ∈ state.queue, isLine message = false → message = stop ∧ Closed state
  held : Closed state → state.removed = true ∨ stop ∈ state.queue ∨
    ∃ batch ∈ state.batch, batch.toDestroy = true
  quiet : Closed state → state.waiting = []
  lines : ∀ message ∈ state.waiting, isLine message = true
  removal : state.removed = true → Closed state ∧ state.queue = [] ∧ state.batch = none
  opened : state.removed = false → state.registered = true ∧ state.fd = true
  cells : ∀ batch ∈ state.batch, batch.iov.take batch.number = batch.iov.reduceOption.map some
  last : ∀ batch ∈ state.batch, batch.toDestroy = true → Closed state ∧ state.queue = []
  signals : state.signals = state.queue.length + (state.batch.map Batch.number).getD 0
  order : state.pushed = state.written ++ inBatch state ++ state.queue.filter isLine
  numbered : ((state.pushed ++ state.waiting).map Message.id).Perm (List.range' 1 state.allocated)
  freed : (state.freed.filter (· ≠ 0)).Perm (state.written.map Message.id)

theorem isLine_stop : isLine stop = false := rfl

variable (message : Message)

theorem tidy_snoc {messages : List Message} (lines : ∀ other ∈ messages, isLine other = true) :
    Tidy (messages ++ [message]) := by
  apply pairwise_append.mpr
  refine ⟨?_,pairwise_singleton _ _,fun other mem _ _ => lines other mem⟩
  exact List.Pairwise.imp_of_mem (fun mem _ _ => lines _ mem) (pairwise_of_forall fun _ _ => trivial)

variable {state : State}

section
variable (delivering : Delivering state)
include delivering

section
variable (unclosed : ¬ Closed state)
include unclosed

theorem lines_of_not_closed :
    ∀ message ∈ state.queue, isLine message = true := by
  intro message mem
  by_contra other
  exact unclosed (delivering.closing message mem (by simpa using other)).2

theorem not_removed : state.removed = false := by
  by_contra removed
  exact unclosed (delivering.removal (by simpa using removed)).1

variable {batch : Batch}

theorem not_last
    (there : batch ∈ state.batch) : batch.toDestroy = false := by
  by_contra ends
  exact unclosed (delivering.last batch there (by simpa using ends)).1

end

theorem id_pos {message : Message}
    (there : message ∈ state.pushed) : message.id ≠ 0 := by
  have mem : message.id ∈ (state.pushed ++ state.waiting).map Message.id :=
    mem_map_of_mem (mem_append_left _ there)
  have bounds := mem_range'.mp (delivering.numbered.mem_iff.mp mem)
  omega

end

theorem created_delivering (size : UInt32) : Delivering (.created size) := by
  refine ⟨rfl,id,.nil,?_,?_,fun _ => rfl,?_,?_,fun _ => ⟨rfl,rfl⟩,?_,?_,rfl,rfl,.refl _,.refl _⟩
  · intro message mem
    exact absurd mem not_mem_nil
  · intro closed
    exact absurd closed.1 (by simp [State.created])
  · intro message mem
    exact absurd mem not_mem_nil
  · intro removed
    exact absurd removed (by simp [State.created])
  · intro batch there
    exact absurd there (by simp [State.created])
  · intro batch there
    exact absurd there (by simp [State.created])

section
variable (delivering : Delivering state)
include delivering

variable {msg : Message} {allocated : Nat}

section
variable (unclosed : ¬ Closed state)
include unclosed

theorem pushLine_delivering (line : isLine msg = true) {waiting : List Message}
    (kept : ∀ other ∈ waiting, other ∈ state.waiting)
    (numbered : ((state.pushed ++ msg::waiting).map Message.id).Perm (range' 1 allocated)) :
    Delivering (pushLine msg {state with waiting, allocated}) := by
  have queued := lines_of_not_closed delivering unclosed
  have here := not_removed delivering unclosed
  refine ⟨delivering.defined,delivering.begun,?_,?_,?_,?_,?_,?_,delivering.opened,delivering.cells,
    ?_,?_,?_,?_,delivering.freed⟩
  · exact tidy_snoc msg queued
  · intro other mem stops
    rcases mem_append.mp mem with earlier | same
    · exact delivering.closing other earlier stops
    · rw [mem_singleton.mp same,line] at stops
      exact Bool.noConfusion stops
  · intro closed
    exact absurd closed unclosed
  · intro closed
    exact absurd closed unclosed
  · intro other mem
    exact delivering.lines other (kept other mem)
  · intro removed
    exact Bool.noConfusion (here.symm.trans removed)
  · intro batch there ends
    exact Bool.noConfusion ((not_last delivering unclosed there).symm.trans ends)
  · simp only [pushLine,pushBack,length_append,length_singleton,delivering.signals]
    omega
  · simp [pushLine,pushBack,inBatch,delivering.order,line]
  · simpa [pushLine,pushBack] using numbered

theorem pushStop_delivering (quiet : state.waiting = []) :
    Delivering (pushBack stop {state with destroying := true, stopWaiting := false}) := by
  have queued := lines_of_not_closed delivering unclosed
  have here := not_removed delivering unclosed
  have closed : Closed (pushBack stop {state with destroying := true, stopWaiting := false}) := ⟨rfl,rfl⟩
  refine ⟨delivering.defined,fun _ => rfl,?_,?_,?_,fun _ => quiet,delivering.lines,?_,delivering.opened,
    delivering.cells,?_,?_,?_,delivering.numbered,delivering.freed⟩
  · exact tidy_snoc stop queued
  · intro other mem stops
    rcases mem_append.mp mem with earlier | same
    · rw [queued other earlier] at stops
      exact Bool.noConfusion stops
    · exact ⟨mem_singleton.mp same,closed⟩
  · intro _
    exact .inr (.inl (by simp [pushBack]))
  · intro removed
    exact Bool.noConfusion (here.symm.trans removed)
  · intro batch there ends
    exact Bool.noConfusion ((not_last delivering unclosed there).symm.trans ends)
  · simp only [pushBack,length_append,length_singleton,delivering.signals]
    omega
  · simp [pushBack,inBatch,delivering.order,isLine_stop]

theorem wait_delivering (line : isLine msg = true)
    (numbered : ((state.pushed ++ (state.waiting ++ [msg])).map Message.id).Perm (range' 1 allocated)) :
    Delivering {state with allocated, waiting := state.waiting ++ [msg]} := by
  refine {delivering with quiet := ?_, lines := ?_, removal := ?_, numbered}
  · intro closed
    exact absurd closed unclosed
  · intro other mem
    rcases mem_append.mp mem with earlier | same
    · exact delivering.lines other earlier
    · rw [mem_singleton.mp same,line]
  · intro removed
    exact absurd (delivering.removal removed).1 unclosed

end

theorem delay_delivering (begins : state.destroying = false) :
    Delivering {state with destroying := true, stopWaiting := true} := by
  have unclosed : ¬ Closed state := by simp [Closed,begins]
  have queued := lines_of_not_closed delivering unclosed
  have here := not_removed delivering unclosed
  have waits : ¬ Closed {state with destroying := true, stopWaiting := true} := by simp [Closed]
  refine {delivering with
    begun := fun _ => rfl, closing := ?_, held := ?_, quiet := ?_, removal := ?_, last := ?_}
  · intro msg mem kind
    exact Bool.noConfusion (kind.symm.trans (queued msg mem))
  · intro closed
    exact absurd closed waits
  · intro closed
    exact absurd closed waits
  · intro removed
    exact Bool.noConfusion (here.symm.trans removed)
  · intro batch there ends
    exact Bool.noConfusion ((not_last delivering unclosed there).symm.trans ends)

theorem fresh_numbered (msg : Message) (fresh : msg.id = state.allocated + 1) :
    ((msg::(state.pushed ++ state.waiting)).map Message.id).Perm (range' 1 (state.allocated + 1)) := by
  rw [map_cons,fresh,range'_1_concat,Nat.add_comm 1]
  exact (perm_append_singleton _ _).symm.trans (delivering.numbered.append_right _)

theorem doLog_delivering {queueSize : Nat} {length : UInt16}
    (line : length ≠ 0) (begins : state.destroying = false) : Delivering (doLog queueSize length state) := by
  have unclosed : ¬ Closed state := by simp [Closed,begins]
  have numbered := fresh_numbered delivering ⟨state.allocated + 1,length⟩ rfl
  have kind : isLine ⟨state.allocated + 1,length⟩ = true := by simpa [isLine] using line
  simp only [doLog]
  split_ifs with ending
  · exact Bool.noConfusion (begins.symm.trans ending)
  · apply wait_delivering delivering unclosed kind
    rw [← append_assoc]
    exact ((perm_append_singleton _ _).map _).trans numbered
  · apply pushLine_delivering delivering unclosed kind fun _ mem => mem
    exact (perm_middle.map _).trans numbered

theorem wake_delivering {queueSize : Nat} : Delivering (wake queueSize msg state) := by
  unfold wake
  split_ifs with woken
  · have unclosed : ¬ Closed state := by
      intro closed
      rw [delivering.quiet closed] at woken
      exact not_mem_nil woken.1
    apply pushLine_delivering delivering unclosed (delivering.lines msg woken.1)
      fun _ mem => mem_of_mem_erase mem
    exact (((perm_cons_erase woken.1).symm.append_left _).map _).trans delivering.numbered
  · exact delivering

section
variable {queueSize : Nat} (quiet : isFull queueSize state = false → state.waiting = [])
include quiet

theorem destroy_delivering : Delivering (destroy queueSize state) := by
  unfold destroy
  split_ifs with again full
  · exact delivering
  · exact delay_delivering delivering (by simpa using again)
  · have unclosed : ¬ Closed state := by simp [Closed,again]
    have alone : state.stopWaiting = false := by
      by_contra waits
      exact again (delivering.begun (by simpa using waits))
    have pushed := pushStop_delivering delivering unclosed (quiet (by simpa using full))
    rwa [← alone] at pushed

theorem wakeDestroy_delivering : Delivering (wakeDestroy queueSize state) := by
  unfold wakeDestroy
  split_ifs with woken
  · have unclosed : ¬ Closed state := by simp [Closed,woken.1]
    have pushed := pushStop_delivering delivering unclosed (quiet woken.2)
    rwa [← delivering.begun woken.1] at pushed
  · exact delivering

end

theorem collect_delivering (idle : state.batch = none) (here : state.removed = false) :
    Delivering (collect state) := by
  have whole := take_append_drop logNumberWritedOnce state.queue
  have tidy :=
    whole.symm ▸ delivering.tidy
  obtain ⟨front,back,apart⟩ := pairwise_append.mp tidy
  have stops : ∀ msg ∈ state.queue.take logNumberWritedOnce, isLine msg = false →
      msg = stop ∧ Closed state := by
    intro msg taken kind
    exact delivering.closing msg (mem_of_mem_take taken) kind
  refine ⟨delivering.defined,delivering.begun,back,?_,?_,delivering.quiet,delivering.lines,?_,
    delivering.opened,
    ?_,?_,?_,?_,delivering.numbered,?_⟩
  · intro msg mem kind
    exact delivering.closing msg (mem_of_mem_drop mem) kind
  · intro closed
    have queued : stop ∈ state.queue := by
      simpa [here,idle] using delivering.held closed
    rw [← whole,mem_append] at queued
    rcases queued with taken | left
    · refine .inr (.inr ⟨_,rfl,?_⟩)
      have mem : stop ∈ (state.queue.take logNumberWritedOnce).filter (!isLine ·) :=
        mem_filter.mpr ⟨taken,rfl⟩
      simpa using ne_nil_of_mem mem
    · exact .inr (.inl left)
  · intro removed
    exact Bool.noConfusion (here.symm.trans removed)
  · rintro batch ⟨⟩
    exact take_cells front
  · rintro batch ⟨⟩ ends
    obtain ⟨msg,taken,kind⟩ : ∃ msg ∈ state.queue.take logNumberWritedOnce, isLine msg = false := by
      simpa using ends
    refine ⟨(stops msg taken kind).2,eq_nil_iff_forall_not_mem.mpr ?_⟩
    intro other later
    exact Bool.noConfusion (kind.symm.trans (apart msg taken other later))
  · have parts := length_eq_length_filter_add isLine (l := state.queue.take logNumberWritedOnce)
    have sizes := congrArg length whole
    have signals := delivering.signals
    rw [length_append] at sizes
    simp only [idle,map_none,getD_none] at signals
    simp only [collect,map_some,getD_some]
    omega
  · have order := delivering.order
    rw [← whole,filter_append] at order
    simp only [inBatch,idle,map_none,getD_none,append_nil] at order
    simp only [collect,inBatch,map_some,reduceOption_cells,append_assoc]
    exact order
  · have none : (((state.queue.take logNumberWritedOnce).filter (!isLine ·)).map Message.id).filter
        (· ≠ 0) = [] := by
      rw [filter_eq_nil_iff]
      intro id mem
      obtain ⟨msg,kept,rfl⟩ := mem_map.mp mem
      obtain ⟨taken,kind⟩ := mem_filter.mp kept
      rw [(stops msg taken (by simpa using kind)).1]
      decide
    rw [collect,filter_append,none,append_nil]
    exact delivering.freed

end

def written (batch : Batch) (state : State) : State :=
  let lines := batch.iov.reduceOption
  {state with
    batch := none
    signals := state.signals - batch.number
    currentBytes := state.currentBytes + UInt32.ofNat (Writev.complete.bytes lines)
    written := state.written ++ lines
    freed := state.freed ++ lines.reverse.map Message.id
    registered := state.registered && !batch.toDestroy
    removed := state.removed || batch.toDestroy}

theorem batchWrite_complete (cells : batch.iov.take batch.number = batch.iov.reduceOption.map some) :
    batchWrite .complete batch state = written batch state := by
  have lines : (batch.iov.reduceOption.map some).reduceOption = batch.iov.reduceOption := by
    simp [reduceOption]
  have assigned : none ∉ batch.iov.reduceOption.map some := by simp
  rw [batchWrite,cells]
  cases ends : batch.toDestroy <;> simp [written,lines,ends,Writev.lines,removeLogger]

section
variable (delivering : Delivering state)
include delivering

theorem written_delivering
    (there : state.batch = some batch) : Delivering (written batch state) := by
  have closed := delivering.last batch there
  have order := delivering.order
  simp only [inBatch,there] at order
  refine {delivering with
    held := ?_, removal := ?_, opened := ?_, cells := ?_, last := ?_, signals := ?_, order := ?_, freed := ?_}
  · intro shut
    rcases delivering.held shut with removed | queued | ⟨other,same,ends⟩
    · exact .inl (by simp [written,removed])
    · exact .inr (.inl queued)
    · cases there.symm.trans same
      exact .inl (by simp [written,ends])
  · intro removed
    rcases Bool.or_eq_true_iff.mp removed with before | ends
    · exact absurd (delivering.removal before).2.2 (by simp [there])
    · exact ⟨(closed ends).1,(closed ends).2,rfl⟩
  · intro here
    obtain ⟨before,continues⟩ := Bool.or_eq_false_iff.mp here
    obtain ⟨registered,opened⟩ := delivering.opened before
    exact ⟨by simp [written,registered,continues],opened⟩
  · intro other same
    exact absurd same (by simp [written])
  · intro other same
    exact absurd same (by simp [written])
  · have signals := delivering.signals
    simp only [there] at signals
    simp [written,signals]
  · simpa [written,inBatch] using order
  · have pos : ∀ id ∈ batch.iov.reduceOption.reverse.map Message.id, id ≠ 0 := by
      intro id mem
      obtain ⟨line,kept,rfl⟩ := mem_map.mp mem
      apply id_pos delivering
      rw [order]
      simp [mem_reverse.mp kept]
    have kept : (batch.iov.reduceOption.reverse.map Message.id).filter (· ≠ 0) =
        batch.iov.reduceOption.reverse.map Message.id :=
      filter_eq_self.mpr fun id mem => by simpa using pos id mem
    rw [written,filter_append,kept,map_append,map_reverse]
    exact delivering.freed.append (reverse_perm _)

theorem bytes_delivering {currentBytes : UInt32} :
    Delivering {state with currentBytes} := by
  cases delivering
  constructor <;> assumption

variable {calls : FileCalls}

theorem execute_succeeding (succeeding : Succeeding (.execute calls)) :
    execute calls state = state ∧ (state.batch = none → state.queue = []) ∨ state.batch = none ∧
      state.removed = false ∧
        ∃ currentBytes, execute calls state = collect {state with currentBytes} := by
  unfold execute
  split_ifs with ready
  · obtain ⟨registered,signalled,idle⟩ := ready
    have here : state.removed = false := by
      by_contra removed
      have empty := (delivering.removal (by simpa using removed)).2.1
      have signals := delivering.signals
      simp only [empty,idle,map_none,getD_none,length_nil] at signals
      omega
    exact .inr ⟨idle,here,attempt_made registered (delivering.opened here).2 fun _ => succeeding⟩
  · refine .inl ⟨rfl,fun idle => ?_⟩
    cases removed : state.removed with
    | true => exact (delivering.removal removed).2.1
    | false =>
      have signals := delivering.signals
      simp only [Executes,(delivering.opened removed).1,idle,true_and,and_true] at ready
      exact length_eq_zero_iff.mp (by omega)

theorem execute_delivering
    (succeeding : Succeeding (.execute calls)) : Delivering (execute calls state) := by
  rcases execute_succeeding delivering succeeding with ⟨same,-⟩ | ⟨idle,here,currentBytes,collected⟩
  · rwa [same]
  · rw [collected]
    exact collect_delivering (bytes_delivering delivering) idle here

theorem write_complete : write .complete state = state ∧ state.batch = none ∨
      ∃ batch, state.batch = some batch ∧ write .complete state = written batch state := by
  unfold write
  split
  · rename_i idle
    exact .inl ⟨rfl,idle⟩
  · rename_i batch there
    exact .inr ⟨batch,there,batchWrite_complete (delivering.cells batch there)⟩

theorem write_delivering : Delivering (write .complete state) := by
  rcases write_complete delivering with ⟨same,-⟩ | ⟨batch,there,whole⟩
  · rwa [same]
  · rw [whole]
    exact written_delivering delivering there

end

variable (queueSize : Nat)

theorem step_delivering (state : State) (act : Action) (delivering : Delivering state)
    (allowed : Succeeding act ∧ Orderly queueSize state act) : Delivering (step queueSize state act).1 := by
  obtain ⟨succeeding,orderly⟩ := allowed
  unfold step
  rw [if_neg (by simp [delivering.defined])]
  cases act with
  | log length => exact doLog_delivering delivering orderly.1 orderly.2
  | wake message => exact wake_delivering delivering
  | destroy => exact destroy_delivering delivering orderly
  | wakeDestroy => exact wakeDestroy_delivering delivering orderly
  | execute calls => exact execute_delivering delivering succeeding
  | write res =>
    cases succeeding
    exact write_delivering delivering

theorem exactlyOnce_of_delivering (delivering : Delivering state) : ExactlyOnce state := by
  have ids :=
    delivering.numbered.nodup_iff.mpr nodup_range'
  have pushedIds : (state.pushed.map Message.id).Nodup := by
    rw [map_append] at ids
    exact (nodup_append.mp ids).1
  have inOrder : state.written <+: state.pushed := by
    rw [delivering.order,append_assoc]
    exact prefix_append _ _
  have counted : ∀ id ∈ range' 1 state.allocated, state.freed.count id =
      (state.written.map Message.id).count id := by
    intro id mem
    have pos : id ≠ 0 := by
      have := mem_range'.mp mem
      omega
    rw [← delivering.freed.count_eq,count_filter (by simpa using pos)]
  have whole : state.removed = true → state.written = state.pushed ∧ state.waiting = [] := by
    intro removed
    obtain ⟨closed,empty,idle⟩ := delivering.removal removed
    refine ⟨?_,delivering.quiet closed⟩
    rw [delivering.order,inBatch,idle,empty]
    simp
  refine ⟨delivering.defined,inOrder,List.Nodup.of_map _ pushedIds,fun removed => (whole removed).1,?_,?_⟩
  · intro id mem
    rw [counted id mem]
    exact nodup_iff_count_le_one.mp (pushedIds.sublist (inOrder.sublist.map _)) id
  · intro removed id mem
    obtain ⟨all,quiet⟩ := whole removed
    have numbered := delivering.numbered
    rw [quiet,append_nil] at numbered
    rw [counted id mem,all]
    exact count_eq_one_of_mem pushedIds (numbered.mem_iff.mpr mem)

def goOn (calls : List FileCalls) : List Action :=
  .write .complete :: calls.flatMap fun call => [.execute call,.write .complete]

/-- What the threads that log and destroy have done is left as it is. -/
structure Untouched (before after : State) : Prop where
  pushed : after.pushed = before.pushed
  destroying : after.destroying = before.destroying
  stopWaiting : after.stopWaiting = before.stopWaiting

theorem Untouched.trans {first second third : State} (before : Untouched first second)
    (after : Untouched second third) : Untouched first third :=
  ⟨after.pushed.trans before.pushed,after.destroying.trans before.destroying,
    after.stopWaiting.trans before.stopWaiting⟩

theorem write_untouched (delivering : Delivering state) :
    Untouched state (write .complete state) ∧ (write .complete state).batch = none ∧
      (write .complete state).queue = state.queue := by
  rcases write_complete delivering with ⟨same,idle⟩ | ⟨batch,there,whole⟩
  · rw [same]
    exact ⟨⟨rfl,rfl,rfl⟩,idle,rfl⟩
  · rw [whole]
    exact ⟨⟨rfl,rfl,rfl⟩,rfl,rfl⟩

theorem execute_untouched (delivering : Delivering state) (idle : state.batch = none)
    (succeeding : Succeeding (.execute calls)) : Untouched state (execute calls state) ∧
      (execute calls state).queue = state.queue.drop logNumberWritedOnce := by
  rcases execute_succeeding delivering succeeding with ⟨same,empty⟩ | ⟨-,-,currentBytes,collected⟩
  · rw [same,empty idle]
    exact ⟨⟨rfl,rfl,rfl⟩,drop_nil.symm⟩
  · rw [collected]
    exact ⟨⟨rfl,rfl,rfl⟩,rfl⟩

theorem rounds_drain (calls : List FileCalls)
    (succeeding : ∀ call ∈ calls, Succeeding (.execute call)) (state : State) (delivering : Delivering state)
    (idle : state.batch = none) (enough : state.queue.length ≤ calls.length) :
    ∃ after, final (step queueSize) state
      (calls.flatMap fun call => [.execute call,.write .complete]) = after ∧
      Delivering after ∧ Untouched state after ∧ after.batch = none ∧ after.queue = [] := by
  induction calls generalizing state with
  | nil => exact ⟨state,rfl,delivering,⟨rfl,rfl,rfl⟩,idle,length_eq_zero_iff.mp (Nat.le_zero.mp enough)⟩
  | cons call rest ih =>
    obtain ⟨first,later⟩ := forall_mem_cons.mp succeeding
    have ran := execute_delivering delivering first
    obtain ⟨kept,taken⟩ := execute_untouched delivering idle first
    obtain ⟨keptToo,done,same⟩ := write_untouched ran
    have shorter : (write .complete (execute call state)).queue.length ≤ rest.length := by
      rw [same,taken,length_drop]
      simp only [length_cons,logNumberWritedOnce] at enough ⊢
      omega
    obtain ⟨after,reached,delivered,untouched,finished⟩ := ih later _ (write_delivering ran) done shorter
    refine ⟨after,?_,delivered,(kept.trans keptToo).trans untouched,finished⟩
    simpa [step,delivering.defined,ran.defined] using reached

theorem goOn_drains {calls : List FileCalls}
    (succeeding : ∀ call ∈ calls, Succeeding (.execute call)) (delivering : Delivering state)
    (enough : state.queue.length ≤ calls.length) :
    ∃ after, final (step queueSize) state (goOn calls) = after ∧ ExactlyOnce after ∧
      after.written = state.pushed ∧ (Closed state → after.removed = true) := by
  obtain ⟨kept,done,same⟩ := write_untouched delivering
  obtain ⟨after,reached,delivered,untouched,idle,empty⟩ :=
    rounds_drain queueSize calls succeeding _ (write_delivering delivering) done (same ▸ enough)
  have kept := kept.trans untouched
  refine ⟨after,?_,exactlyOnce_of_delivering delivered,?_,?_⟩
  · rw [goOn]
    simpa [step,delivering.defined] using reached
  · rw [← kept.pushed,delivered.order,inBatch,idle,empty]
    simp
  · intro closed
    have shut : Closed after := by
      rw [Closed,kept.destroying,kept.stopWaiting]
      exact closed
    simpa [idle,empty] using delivered.held shut

theorem delivers_once (queueSize : Nat) (size : UInt32) (actions : List Action)
    (succeeding : ∀ action ∈ actions, Succeeding action)
    (orderly : Run.Meets (Orderly queueSize) (step queueSize) (.created size) actions) :
    ∃ state, final (step queueSize) (.created size) actions = state ∧ ExactlyOnce state ∧
      ∀ calls : List FileCalls, (∀ call ∈ calls, Succeeding (.execute call)) →
        state.queue.length ≤ calls.length →
        ∃ after, final (step queueSize) state (goOn calls) = after ∧ ExactlyOnce after ∧
          after.written = state.pushed ∧ (Closed state → after.removed = true) := by
  have delivering := invariant Delivering (step_delivering queueSize) _ actions (created_delivering size)
    (meets_and Succeeding _ actions succeeding orderly)
  refine ⟨_,rfl,exactlyOnce_of_delivering delivering,?_⟩
  intro calls creates enough
  exact goOn_drains queueSize creates delivering enough

def twoLines : List Action :=
  [.log 5,.log 7,.execute usual,.wake ⟨2,7⟩,.write .complete,.destroy,.execute usual,
    .write .complete,.wakeDestroy,
    .execute usual,.write .complete]

theorem delivers_once_two : (final (step 1) (.created 0) twoLines).written = [⟨1,5⟩,⟨2,7⟩] ∧
    (final (step 1) (.created 0) twoLines).removed = true ∧
    ExactlyOnce (final (step 1) (.created 0) twoLines) := by
  obtain ⟨state,reached,once,-⟩ := delivers_once 1 0 twoLines (by decide) (by decide)
  rw [reached]
  exact ⟨by rw [← reached]; decide,by rw [← reached]; decide,once⟩

/-- The second line waits for room when `destroy` is called, and enters the queue behind the stop
message. With one place the logger is removed before; with two the stop message is in the batch
before it, in a cell never assigned. -/
def overtaken : List Action :=
  [.log 5,.log 7,.destroy,.execute usual,.write .complete,.wakeDestroy,.execute usual,
    .write .complete,.wake ⟨2,7⟩]

def mixed : List Action :=
  [.log 5,.log 6,.log 7,.destroy,.execute usual,.write .complete,.wakeDestroy,.wake ⟨3,7⟩,
    .execute usual,.write .complete]

theorem line_lost : ((∀ action ∈ overtaken, Succeeding action) ∧
      (final (step 1) (.created 0) overtaken).removed = true ∧
      (⟨2,7⟩ : Message) ∈ (final (step 1) (.created 0) overtaken).pushed ∧
      ⟨2,7⟩ ∉ (final (step 1) (.created 0) overtaken).written) ∧
    ¬ ExactlyOnce (final (step 1) (.created 0) overtaken) ∧
    (∀ action ∈ mixed, Succeeding action) ∧ (final (step 2) (.created 0) mixed).undefined = true := by
  refine ⟨by decide,?_,by decide,by decide⟩
  intro once
  exact absurd (once.beforeRemoval (by decide)) (by decide)

end Mooon.Logger

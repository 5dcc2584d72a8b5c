import Mooon.Run
import Mathlib.Data.List.ReduceOption

/-! One `CLogger` and the log thread that writes its lines. Each action is a section that no other
thread can enter: what a thread does under `_queue_lock`, or what the log thread does outside of it,
between two calls of `epoll_wait`. A thread that waits for room leaves the lock, and may have it
again at any time. -/
namespace Mooon.Logger

/-- The lines of `do_log` are numbered from one in the order of their allocation. -/
structure Message where
  id : Nat
  length : UInt16
deriving DecidableEq, Repr

def stop : Message := ⟨0,0⟩

/-- What `batch_write` collects: the cells of `iov_array` by the place in the queue, where a cell
that is not assigned is `none`. -/
structure Batch where
  iov : List (Option Message)
  number : Nat
  toDestroy : Bool
deriving DecidableEq, Repr

/-- `waiting` are the lines of the threads that wait in `push_log_message`, and `stopWaiting` says
that `destroy` does. `pushed` are the lines whose `push_log_message` has returned, `written` those
in the file and `freed` the messages that are freed. `signals` are the bytes in the pipe, which is
taken to hold one for each place of the queue: a write to it does not block. After a use of memory
that is not initialised the logger is `undefined`. -/
structure State where
  queue : List Message
  signals : Nat
  destroying : Bool
  waiting : List Message
  stopWaiting : Bool
  batch : Option Batch
  fd : Bool
  registered : Bool
  removed : Bool
  currentBytes : UInt32
  allocated : Nat
  pushed : List Message
  written : List Message
  freed : List Nat
  undefined : Bool
deriving DecidableEq, Repr

def State.created (size : UInt32) : State := ⟨[],0,false,[],false,none,true,true,false,size,0,[],[],[],false⟩

/-- The answers to the calls of one `prewrite`: the links that `need_create_file` sees, the size
from which on a file is rotated, and the results of `rename`, `open` and `fstat`. -/
structure FileCalls where
  links : Option Nat
  maxBytes : UInt32
  renames : List Bool
  opened : Bool
  size : Option UInt32
deriving DecidableEq, Repr

/-- The answer of `writev`, with `EINTR` tried again. -/
inductive Writev where
  | failed
  | short (bytes : Nat)
  | complete
deriving DecidableEq, Repr

inductive Action where
  | log (length : UInt16)
  | wake (message : Message)
  | destroy
  | wakeDestroy
  | execute (calls : FileCalls)
  | write (result : Writev)
deriving DecidableEq, Repr

section
variable (queueSize : Nat) (state : State) (message : Message) (calls : FileCalls)

/-- `create` makes a queue of one place when asked for none. -/
def capacity : Nat := if queueSize = 0 then 1 else queueSize

def isFull : Bool := decide (capacity queueSize ≤ state.queue.length)

def pushBack (state : State) : State :=
  {state with queue := state.queue ++ [message], signals := state.signals + 1}

def pushLine (state : State) : State :=
  {pushBack message state with pushed := state.pushed ++ [message]}

def doLog (length : UInt16) (state : State) : State :=
  let message : Message := ⟨state.allocated + 1,length⟩
  let state := {state with allocated := state.allocated + 1}
  if state.destroying then state
  else if isFull queueSize state then {state with waiting := state.waiting ++ [message]}
  else pushLine message state

def wake (state : State) : State :=
  if message ∈ state.waiting ∧ isFull queueSize state = false then
    pushLine message {state with waiting := state.waiting.erase message}
  else state

def destroy : State :=
  if state.destroying then state
  else if isFull queueSize state then {state with destroying := true, stopWaiting := true}
  else pushBack stop {state with destroying := true}

def wakeDestroy : State :=
  if state.stopWaiting ∧ isFull queueSize state = false then pushBack stop {state with stopWaiting := false}
  else state

def removeLogger : State := {state with registered := false}

def closeLogfile : State :=
  if state.fd then {removeLogger state with fd := false} else state

/-- The new state, and whether an exception leaves the function. -/
def createLogfile (state : State) : State × Bool :=
  if calls.opened then
    match calls.size with
    | none => ({state with fd := true},true)
    | some size => ({state with fd := true, currentBytes := size, registered := true},false)
  else ({state with fd := false},true)

def rotateFile (state : State) : State × Bool := createLogfile calls state

def needCreateFile : Bool := calls.links == some 0

def needRotateFile (state : State) : Bool := decide (calls.maxBytes < state.currentBytes)

def prewrite (state : State) : State × Bool :=
  if needCreateFile calls then createLogfile calls (closeLogfile state)
  else if needRotateFile calls state then rotateFile calls (closeLogfile state)
  else (state,false)

def logNumberWritedOnce : Nat := 10

def isLine : Bool := message.length != 0

def cell : Option Message := if isLine message then some message else none

def collect : State :=
  let taken := state.queue.take logNumberWritedOnce
  let stops := taken.filter (!isLine ·)
  {state with
    queue := state.queue.drop logNumberWritedOnce
    signals := state.signals - stops.length
    freed := state.freed ++ stops.map Message.id
    batch := some ⟨taken.map cell,(taken.filter isLine).length,!stops.isEmpty⟩}

def Executes : Prop := state.registered = true ∧ 0 < state.signals ∧ state.batch = none

instance (state : State) : Decidable (Executes state) := inferInstanceAs (Decidable (_ ∧ _ ∧ _))

def attempt (state : State) : State :=
  match prewrite calls state with
  | (state,true) => closeLogfile state
  | (state,false) =>
    if !state.registered then {state with removed := true}
    else if state.fd then collect state
    else state

def execute (state : State) : State :=
  if Executes state then attempt calls state else state

def whole : Nat → List Message → List Message
  | _, [] => []
  | bytes, line::rest =>
    if line.length.toNat ≤ bytes then line :: whole (bytes - line.length.toNat) rest else []

def totalLength : List Message → Nat
  | [] => 0
  | line::rest => line.length.toNat + totalLength rest

def Writev.bytes (lines : List Message) : Writev → Nat
  | .failed => 0
  | .short bytes => bytes
  | .complete => totalLength lines

def Writev.lines (lines : List Message) : Writev → List Message
  | .failed => []
  | .short bytes => whole bytes lines
  | .complete => lines

/-- The rest of `batch_write`. Only the first `number` cells are written and freed, from the last to
the first. -/
def batchWrite (result : Writev) (batch : Batch) (state : State) : State :=
  let cells := batch.iov.take batch.number
  if none ∈ cells then {state with undefined := true}
  else
    let lines := cells.reduceOption
    let state := {state with
      batch := none
      signals := state.signals - batch.number
      currentBytes := state.currentBytes + UInt32.ofNat (result.bytes lines)
      written := state.written ++ result.lines lines
      freed := state.freed ++ lines.reverse.map Message.id}
    if 0 < batch.number ∧ result = .failed then closeLogfile state
    else if batch.toDestroy then {removeLogger state with removed := true}
    else state

def write (result : Writev) (state : State) : State :=
  match state.batch with
  | none => state
  | some batch => batchWrite result batch state

def step (action : Action) : State × Unit :=
  if state.undefined then (state,())
  else match action with
    | .log length => (doLog queueSize length state,())
    | .wake message => (wake queueSize message state,())
    | .destroy => (destroy queueSize state,())
    | .wakeDestroy => (wakeDestroy queueSize state,())
    | .execute calls => (execute calls state,())
    | .write result => (write result state,())

end

def OfLogThread : Action → Prop
  | .execute _ | .write _ => True
  | _ => False

def Tidy (messages : List Message) : Prop := messages.Pairwise fun earlier _ => isLine earlier = true

theorem take_cells {messages : List Message} (tidy : Tidy messages) :
    (messages.map cell).take (messages.filter isLine).length = (messages.map cell).reduceOption.map some := by
  induction messages with
  | nil => rfl
  | cons msg rest ih =>
    obtain ⟨first,later⟩ := List.pairwise_cons.mp tidy
    cases line : isLine msg with
    | true => simpa [cell,line] using ih later
    | false =>
      -- a stop msg has nothing after it
      have ends : rest = [] := by
        rw [List.eq_nil_iff_forall_not_mem]
        intro other mem
        rw [first other mem] at line
        exact Bool.noConfusion line
      simp [ends,cell,line]

theorem reduceOption_cells (messages : List Message) :
    (messages.map cell).reduceOption = messages.filter isLine := by
  induction messages with
  | nil => rfl
  | cons msg rest ih =>
    cases line : isLine msg <;> simpa [cell,line] using ih

def FileCalls.Made (calls : FileCalls) : Prop := calls.opened = true ∧ calls.size.isSome = true

instance (calls : FileCalls) : Decidable calls.Made := inferInstanceAs (Decidable (_ ∧ _))

def Remakes (calls : FileCalls) (state : State) : Prop :=
  needCreateFile calls = true ∨ needRotateFile calls state = true

instance (calls : FileCalls) (state : State) : Decidable (Remakes calls state) :=
  inferInstanceAs (Decidable (_ ∨ _))

variable {calls : FileCalls} {state : State}

theorem prewrite_remakes (remakes : Remakes calls state) :
    prewrite calls state = createLogfile calls (closeLogfile state) := by
  unfold prewrite
  split_ifs with create rotate
  · rfl
  · rfl
  · exact absurd remakes (by simp [Remakes,create,rotate])

theorem prewrite_made (registered : state.registered = true)
    (opened : state.fd = true) (made : Remakes calls state → calls.Made) :
    ∃ currentBytes, prewrite calls state = ({state with currentBytes},false) := by
  by_cases remakes : Remakes calls state
  · obtain ⟨creates,sized⟩ := made remakes
    obtain ⟨size,known⟩ := Option.isSome_iff_exists.mp sized
    refine ⟨size,(prewrite_remakes remakes).trans ?_⟩
    simp [createLogfile,closeLogfile,removeLogger,creates,known,opened,registered]
  · obtain ⟨create,rotate⟩ := not_or.mp remakes
    exact ⟨state.currentBytes,by simp [prewrite,create,rotate]⟩

theorem attempt_made (registered : state.registered = true)
    (opened : state.fd = true) (made : Remakes calls state → calls.Made) :
    ∃ currentBytes, attempt calls state = collect {state with currentBytes} := by
  obtain ⟨currentBytes,ready⟩ := prewrite_made registered opened made
  refine ⟨currentBytes,?_⟩
  simp [attempt,ready,registered,opened]

theorem prewrite_failed (opened : state.fd = true) (remakes : Remakes calls state) (failed : ¬ calls.Made) :
    ∃ after, prewrite calls state = (after,true) ∧ after.registered = false := by
  rw [prewrite_remakes remakes,createLogfile]
  split_ifs with creates
  · cases known : calls.size with
    | none => exact ⟨_,rfl,by simp [closeLogfile,removeLogger,opened]⟩
    | some size => exact absurd ⟨creates,by simp [known]⟩ failed
  · exact ⟨_,rfl,by simp [closeLogfile,removeLogger,opened]⟩

def usual : FileCalls := ⟨some 1,100,[],true,some 0⟩

theorem usual_made : usual.Made := ⟨rfl,rfl⟩

end Mooon.Logger

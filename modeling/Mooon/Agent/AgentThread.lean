import Mooon.Bytes
import Mooon.Run

/-! `CAgentThread` with its `CAgentConnector`, `CReportQueue` and `CSendMachine`. Any thread may put
a message into the queue between two steps of the agent's thread, so its loop is cut wherever it
looks at the queue. The results of the system calls are part of the actions; `epoll_wait` reports a
descriptor once, if at all. -/
namespace Mooon.Agent

abbrev Bytes := List UInt8

/-- A `TCommonMessageHeader` and the body that its `size` counts. -/
structure Packet where
  command : UInt32
  body : Bytes
  small : body.length < 2^32
deriving DecidableEq

def Packet.size (packet : Packet) : UInt32 := UInt32.ofNat packet.body.length

def Packet.bytes (packet : Packet) : Bytes :=
  bytesOf 4 packet.size.toNat ++ bytesOf 4 packet.command.toNat ++ packet.body

/-- The accepted messages are numbered in their order. -/
structure Message where
  number : Nat
  packet : Packet
deriving DecidableEq

def Message.bytes (message : Message) : Bytes := message.packet.bytes

def headerSize : Nat := 8

structure SendMachine where
  message : Option Message
  cursor : Nat
  remainSize : Nat
deriving DecidableEq

def SendMachine.idle : SendMachine := ⟨none,0,0⟩

def SendMachine.isFinish (machine : SendMachine) : Bool := machine.remainSize == 0

structure Events where
  input : Bool
  output : Bool
deriving DecidableEq

def epollIn : Events := ⟨true,false⟩
def epollOut : Events := ⟨false,true⟩
def epollInOut : Events := ⟨true,true⟩

inductive Source where
  | queue
  | connector
deriving DecidableEq

/-- What a `CEpollable` believes to be registered for, and what the kernel has. -/
structure Watch where
  epollEvents : Option Events
  kernel : Option Events
deriving DecidableEq

inductive Event where
  | queue
  | connector (events : Events)
deriving DecidableEq

def Event.source : Event → Source
  | .queue => .queue
  | .connector _ => .connector

/-- Where the thread is in `run`: it needs a connection, is about to wait, has events of the batch
to handle, or is in the loop of `handle_output` with the events after its own. -/
inductive Phase where
  | connecting
  | waiting
  | handling (batch : List Event)
  | sending (rest : List Event)
deriving DecidableEq

/-- `accepted`, `taken` and `deleted` are the messages so far; `closed` are the bytes of the
connections that are closed and `stream` those of the open one. The connector has a descriptor when
it is `established`. -/
structure State where
  queue : List Message
  machine : SendMachine
  established : Bool
  watch : Source → Watch
  phase : Phase
  accepted : List Message
  taken : List Message
  deleted : List Message
  closed : List Bytes
  stream : Bytes

def State.started : State :=
  ⟨[],.idle,false,fun source => if source =
    .queue then ⟨some epollIn,some epollIn⟩ else ⟨none,none⟩,.connecting,
    [],[],[],[],[]⟩

/-- The result of `send`: at most what is left, `-1` for a socket that would block, or an exception. -/
inductive Sent where
  | bytes (size : Nat)
  | wouldBlock
  | failed
deriving DecidableEq

inductive Received where
  | closed
  | wouldBlock
  | failed
  | bytes (accepted : Bool)
deriving DecidableEq

inductive HandleResult where
  | error
  | finish
  | goesOn
deriving DecidableEq

inductive EpollEvent where
  | none
  | read
  | write
  | readWrite
  | remove
  | close
deriving DecidableEq

structure Control where
  first : Bool
  second : Bool
deriving DecidableEq

inductive Action where
  | put (packet : Packet)
  | connect (made : Bool) (control : Control)
  | wait (batch : List Event)
  | timeout (heartbeat : Packet)
  | handle (received : Received) (sent : Sent) (control : Control)
  | send (sent : Sent) (control : Control)

/-- `put_message`, when there is room or none comes in time. -/
def putMessage (queueSize : Nat) (packet : Packet) (state : State) : State :=
  if state.queue.length < queueSize + 1 then
    let message : Message := ⟨state.accepted.length,packet⟩
    {state with queue := state.queue ++ [message], accepted := state.accepted ++ [message]}
  else state

def reset (state : State) : State :=
  {state with machine := .idle, deleted := state.deleted ++ state.machine.message.toList}

def rest (machine : SendMachine) : Bytes :=
  machine.message.toList.flatMap fun message => message.bytes.drop machine.cursor

def progress (state : State) : HandleResult := if state.machine.isFinish then .finish else .goesOn

def continueSend (sent : Sent) (state : State) : State × Option HandleResult :=
  match sent with
  | .failed => (state,none)
  | .wouldBlock => (state,some (progress state))
  | .bytes offered =>
    let size := min offered state.machine.remainSize
    let state := {state with
      machine := ⟨state.machine.message,state.machine.cursor + size,state.machine.remainSize - size⟩
      stream := state.stream ++ (rest state.machine).take size}
    (state,some (progress state))

def isOpen (state : State) : Source → Bool
  | .queue => true
  | .connector => state.established

def setEvents (source : Source) (events : Events) (succeeds : Bool) (state : State) : Option State :=
  if !isOpen state source then some state
  else if (state.watch source).epollEvents = some events then some state
  else if succeeds then some
    {state with watch := Function.update state.watch source ⟨some events,some events⟩}
  else none

def delEvents (source : Source) (succeeds : Bool) (state : State) : Option State :=
  if !isOpen state source then some state
  else if succeeds then some {state with watch := Function.update state.watch source ⟨none,none⟩}
  else none

def close (state : State) : State :=
  if state.established then
    let state := reset state
    {state with
      established := false
      closed := state.closed ++ [state.stream]
      stream := []
      watch := Function.update state.watch .connector ⟨none,none⟩}
  else state

def closeSource (source : Source) (state : State) : State :=
  match source with
  | .queue => state
  | .connector => close state

def applyResult (source : Source) (result : EpollEvent) (succeeds : Bool) (state : State) : Option State :=
  match result with
  | .none => some state
  | .read => setEvents source epollIn succeeds state
  | .write => setEvents source epollOut succeeds state
  | .readWrite => setEvents source epollInOut succeeds state
  | .remove => delEvents source succeeds state
  | .close => (delEvents source succeeds state).map (closeSource source)

def after : List Event → Phase
  | [] => .connecting
  | event::rest => .handling (event::rest)

def conclude (source : Source) (result : EpollEvent) (succeeds : Bool) (rest : List Event)
    (state : State) : State :=
  match applyResult source result succeeds state with
  | some state => {state with phase := after rest}
  | none => {state with phase := .connecting}

def handleQueue (control : Control) (rest : List Event) (state : State) : State :=
  match setEvents .connector epollInOut control.first state with
  | some state => conclude .queue .remove control.second rest state
  | none => {state with phase := .connecting}

def handleInput : Received → EpollEvent
  | .closed | .failed | .bytes false => .close
  | .wouldBlock | .bytes true => .none

def converted : HandleResult → EpollEvent
  | .error => .close
  | .finish => .read
  | .goesOn => .readWrite

/-- What `handle_output` does with the result of a send: after a whole message it goes on with the
next one. -/
def sentOne (control : Control) (rest : List Event) (step : State × Option HandleResult) : State :=
  match step.2 with
  | some .finish => {reset step.1 with phase := .sending rest}
  | some result => conclude .connector (converted result) control.second rest step.1
  | none => conclude .connector .close control.second rest step.1

def beginOutput (sent : Sent) (control : Control) (rest : List Event) (state : State) : State :=
  if state.machine.isFinish then {reset state with phase := .sending rest}
  else sentOne control rest (continueSend sent state)

def sendNext (sent : Sent) (control : Control) (rest : List Event) (state : State) : State :=
  match state.queue with
  | [] =>
    match setEvents .queue epollIn control.first state with
    | some state => conclude .connector .read control.second rest state
    | none => conclude .connector .close control.second rest state
  | message::queue =>
    sentOne control rest (continueSend sent {state with
      queue, taken := state.taken ++ [message]
      machine := ⟨some message,0,headerSize + message.packet.size.toNat⟩})

def handleConnector (events : Events) (received : Received) (sent : Sent) (control : Control)
    (rest : List Event) (state : State) : State :=
  if events.input then conclude .connector (handleInput received) control.second rest state
  else if events.output then beginOutput sent control rest state
  else conclude .connector .close control.second rest state

def handleEvent (received : Received) (sent : Sent) (control : Control) (rest : List Event) (state : State) :
    Event → State
  | .queue => handleQueue control rest state
  | .connector events => handleConnector events received sent control rest state

/-- `connect_center`, unless there is a connection. An exception of `enable_connector_write` leaves
it established. -/
def connectCenter (made : Bool) (control : Control) (state : State) : State :=
  if state.established then {state with phase := .waiting}
  else if made then
    let state := {state with established := true, phase := .waiting}
    (setEvents .connector epollInOut control.first state).getD state
  else state

def step (queueSize : Nat) (state : State) (action : Action) : State × Unit :=
  match action, state.phase with
  | .put packet, _ => (putMessage queueSize packet state,())
  | .connect made control, .connecting => (connectCenter made control state,())
  | .timeout heartbeat, .waiting => ({putMessage queueSize heartbeat state with phase := .connecting},())
  | .wait batch, .waiting =>
    (if (batch.map Event.source).Nodup ∧ batch ≠ [] then {state with phase := .handling batch} else state,())
  | .handle received sent control, .handling (event::rest) =>
    (handleEvent received sent control rest state event,())
  | .send sent control, .sending rest => (sendNext sent control rest state,())
  | _, _ => (state,())

inductive Moves (queueSize : Nat) (state : State) : Action → State → Prop where
  | rests (action : Action) : Moves queueSize state action state
  | puts (packet : Packet) : Moves queueSize state (.put packet) (putMessage queueSize packet state)
  | connects (made : Bool) (control : Control) (phase : state.phase = .connecting) :
    Moves queueSize state (.connect made control) (connectCenter made control state)
  | timesOut (heartbeat : Packet) (phase : state.phase = .waiting) :
    Moves queueSize state (.timeout heartbeat)
      {putMessage queueSize heartbeat state with phase := .connecting}
  | reports (batch : List Event) (phase : state.phase = .waiting)
    (distinct : (batch.map Event.source).Nodup) :
    Moves queueSize state (.wait batch) {state with phase := .handling batch}
  | handles (received : Received) (sent : Sent) (control : Control) (event : Event) (rest : List Event)
    (phase : state.phase = .handling (event::rest)) :
    Moves queueSize state (.handle received sent control) (handleEvent received sent control rest state event)
  | sends (sent : Sent) (control : Control) (rest : List Event) (phase : state.phase = .sending rest) :
    Moves queueSize state (.send sent control) (sendNext sent control rest state)

theorem step_moves (queueSize : Nat) (state : State) (act : Action) :
    Moves queueSize state act (step queueSize state act).1 := by
  unfold step
  split
  · exact .puts _
  · exact .connects _ _ ‹_›
  · exact .timesOut _ ‹_›
  · split_ifs with reported
    · exact .reports _ ‹_› reported.1
    · exact .rests _
  · exact .handles _ _ _ _ _ ‹_›
  · exact .sends _ _ _ ‹_›
  · exact .rests _

end Mooon.Agent

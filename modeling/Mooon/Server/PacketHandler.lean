import Mooon.Bytes
import Mooon.Net.RecvMachine

/-! `CBuiltinPacketHandler` behind `CWaiter::do_handle_epoll_read`: one receive after the other
is cut into messages for an observer that accepts each of them and has no response. The buffer
that the kernel fills is the handler's own header or a block that `on_header` allocates, so the
bytes a round of `CRecvMachine` has left are read again after the calls it made. -/
namespace Mooon.Server
open Net (Bytes HandleResult Call Machine)

def commonHeader : Net.Format := ⟨8,fun header => ofBytes (header.take 4),by decide⟩

/-- Bytes that the code has not written: of the block for the message with this number, and of
the same block when the observer has got it. -/
structure Memory where
  fresh : Nat → Nat → UInt8
  given : Nat → Nat → UInt8

def bytesAt (contents : Nat → UInt8) (offset length : Nat) : Bytes :=
  (List.range length).map (fun i => contents (offset+i))

def overlay (buffer : Bytes) (offset : Nat) (data : Bytes) : Bytes :=
  buffer.take offset ++ data ++ buffer.drop (offset + data.length)

inductive Buffer where
  | requestHeader
  | block (content : Bytes)

structure PacketHandler where
  requestHeader : Bytes
  requestSize : Nat
  requestOffset : Nat
  requestBuffer : Option Buffer
  machine : Machine
  messages : List (Bytes × Bytes)

def PacketHandler.new (memory : Memory) : PacketHandler :=
  ⟨bytesAt (memory.fresh 0) 0 8,8,0,some .requestHeader,.reset (bytesAt (memory.fresh 0) 8 8),[]⟩

section
variable (memory : Memory)

section
variable (handler : PacketHandler)

def PacketHandler.onHeader (header : Bytes) : PacketHandler :=
  let size := commonHeader.bodySize header
  {handler with
    requestHeader := header
    requestSize := size
    requestOffset := 0
    requestBuffer :=
      if size = 0 then none else some (.block (bytesAt (memory.fresh (handler.messages.length+1)) 0 size))}

def PacketHandler.contents : Bytes :=
  match handler.requestBuffer with
  | none => []
  | some .requestHeader => handler.requestHeader
  | some (.block content) => content

def PacketHandler.onMessage (header : Bytes) (finishedSize bufferSize : Nat) : PacketHandler :=
  if finishedSize + bufferSize = commonHeader.bodySize header then
    {handler with requestBuffer := none, messages := handler.messages ++ [(header,handler.contents)]}
  else handler

def PacketHandler.onCall : Call → PacketHandler
  | .onHeader header => handler.onHeader memory header
  | .onMessage header finishedSize data => handler.onMessage header finishedSize data.length

/-- What the bytes left of a receive are after a round, when `given` new messages went to the observer. -/
def PacketHandler.reread (source : Buffer) (given position : Nat) (rest : Bytes) : Bytes :=
  match source with
  | .requestHeader => (handler.requestHeader.drop position).take rest.length
  | .block _ => if given = 0 then
    rest else bytesAt (memory.given handler.messages.length) position rest.length

def PacketHandler.work (source : Buffer) : Nat → PacketHandler → Nat → Bytes → PacketHandler × HandleResult
  | 0, handler, _, _ => (handler,.handleContinue)
  | rounds+1, handler, position, buffer =>
    let (machine,result,rest) :=
      Net.handleState commonHeader (fun _ => true) {handler.machine with calls := []} buffer
    let after := machine.calls.foldl (PacketHandler.onCall memory) {handler with machine := machine}
    match result with
    | .handleContinue =>
      let position := position + (buffer.length - rest.length)
      let given := after.messages.length - handler.messages.length
      after.work source rounds position (after.reread memory source given position rest)
    | .handleError => ({after with machine := after.machine.setNextState .header},.handleError)
    | .handleFinish => (after,.handleFinish)

def PacketHandler.fill (buffer : Buffer) (data : Bytes) : PacketHandler :=
  match buffer with
  | .requestHeader => {handler with requestHeader := overlay handler.requestHeader handler.requestOffset data}
  | .block content =>
    {handler with requestBuffer := some (.block (overlay content handler.requestOffset data))}

def PacketHandler.onHandleRequest (source : Buffer) (data : Bytes) :
    PacketHandler × HandleResult :=
  match handler.work memory source (data.length+1) handler.requestOffset data with
  | (handler,.handleFinish) => (handler,.handleContinue)
  | (handler,result) => (handler,result)

end

/-- A connection with the bytes the peer has sent and the kernel has not handed out. -/
structure Connection where
  handler : PacketHandler
  stream : Bytes
  reads : Nat
  closed : Bool

/-- One receive, of at most `split reads + 1` bytes. There is none when no bytes have come. -/
def doHandleEpollRead (split : Nat → Nat) (connection : Connection) : Connection :=
  let handler := connection.handler
  let size := handler.requestSize - handler.requestOffset
  if connection.closed ∨ connection.stream = [] then connection
  -- `receive` throws EINVAL for no bytes and the kernel answers EFAULT for no buffer
  else if size = 0 then {connection with closed := true}
  else
    match handler.requestBuffer with
    | none => {connection with closed := true}
    | some buffer =>
      let data := connection.stream.take (min (split connection.reads + 1) size)
      let (handler,result) := (handler.fill buffer data).onHandleRequest memory buffer data
      ⟨handler,connection.stream.drop data.length,connection.reads + 1,decide (result = .handleError)⟩

def serving (split : Nat → Nat) (stream : Bytes) (receives : Nat) : Connection :=
  (doHandleEpollRead memory split)^[receives] ⟨.new memory,stream,0,false⟩

end

structure Message where
  header : Bytes
  body : Bytes
  whole : header.length = 8
  sized : commonHeader.bodySize header = body.length

def Message.bytes (message : Message) : Bytes := message.header ++ message.body

def streamOf (messages : List Message) : Bytes := (messages.map Message.bytes).flatten

def Served (memory : Memory) (split : Nat → Nat) (messages : List Message) : Prop :=
  (∀ receives, (serving memory split (streamOf messages) receives).closed = false ∧
    (serving memory split (streamOf messages) receives).handler.messages <+:
      messages.map (fun message => (message.header,message.body))) ∧
  ∃ receives, (serving memory split (streamOf messages) receives).handler.messages =
    messages.map (fun message => (message.header,message.body))

def taken (split : Nat → Nat) : Nat → Nat
  | 0 => 0
  | receives+1 => taken split receives + min (split receives + 1) 8

/-- At most one message; if it has a body, a receive ends behind the header and the next one
takes the whole body. -/
def Framed (split : Nat → Nat) (messages : List Message) : Prop :=
  messages = [] ∨ ∃ message, messages = [message] ∧
    (message.body = [] ∨ ∃ receives, taken split receives = 8 ∧ message.body.length ≤ split receives + 1)

end Mooon.Server

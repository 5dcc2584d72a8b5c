import Mooon.Server.PacketHandler

/-! When the built-in server hands every message of a connection to the observer. Nothing ever
moves `request_offset`, so every receive of a body goes to its first byte, and behind a message
without a response there is no buffer, so the next receive fails. -/
namespace Mooon.Server
open Net (Bytes HandleResult Call Machine Turn)
open List Function

section
variable (memory : Memory) (handler : PacketHandler)

theorem onCall_messages (call : Call) : handler.messages <+: (handler.onCall memory call).messages := by
  cases call with
  | onHeader header => exact prefix_rfl
  | onMessage header finishedSize data =>
    rw [PacketHandler.onCall,PacketHandler.onMessage]
    split
    · exact prefix_append _ _
    · exact prefix_rfl

theorem onCalls_messages (calls : List Call) (handler : PacketHandler) :
    handler.messages <+: (calls.foldl (PacketHandler.onCall memory) handler).messages := by
  induction calls generalizing handler with
  | nil => exact prefix_rfl
  | cons call rest ih => exact (onCall_messages memory handler call).trans (ih _)

variable (source : Buffer) (rounds : Nat)

theorem work_messages (handler : PacketHandler) (pos : Nat) (buf : Bytes) :
    handler.messages <+: (handler.work memory source rounds pos buf).1.messages := by
  induction rounds generalizing handler pos buf with
  | zero => exact prefix_rfl
  | succ rounds ih =>
    rw [PacketHandler.work]
    rcases Net.handleState commonHeader (fun _ => true) {handler.machine with calls := []} buf with
      ⟨machine,res,rest⟩
    have called := onCalls_messages memory machine.calls {handler with machine := machine}
    cases res with
    | handleError | handleFinish => exact called
    | handleContinue => exact called.trans (ih _ _ _)

variable {data : Bytes} {machine : Machine}

theorem work_turn {whole : Bool}
    (turn : Turn commonHeader {handler.machine with calls := []} data whole machine) (rest : Bytes)
    (ends : whole = true ∨ rest = []) (source : Buffer) (rounds pos : Nat) :
    handler.work memory source (rounds+1) pos (data++rest) =
      let after := machine.calls.foldl (PacketHandler.onCall memory) {handler with machine := machine}
      if rest = [] then (after,.handleFinish)
      else after.work memory source rounds (pos+data.length) (after.reread memory source
        (after.messages.length - handler.messages.length) (pos+data.length) rest) := by
  rw [PacketHandler.work,turn.handleState rest ends]
  simp only [Net.resultFor]
  by_cases empty : rest = []
  · simp only [if_pos empty]
  · simp only [if_neg empty,length_append,Nat.add_sub_cancel]

def Connection.behind (stream : Bytes) (reads : Nat) (worked : PacketHandler × HandleResult) : Connection :=
  ⟨worked.1,stream,reads,decide (worked.2 = .handleError)⟩

variable (stream : Bytes) (split : Nat → Nat) (connection : Connection) {buf : Buffer} {size : Nat}

theorem receive_eq
    (closed : connection.closed = false) (arrived : connection.stream ≠ []) (pos : size ≠ 0)
    (requested : connection.handler.requestSize = size) (offset : connection.handler.requestOffset = 0)
    (target : connection.handler.requestBuffer = some buf)
    (came : connection.stream.take (min (split connection.reads + 1) size) = data) :
    doHandleEpollRead memory split connection =
      .behind (connection.stream.drop data.length) (connection.reads+1)
        ((connection.handler.fill buf data).work memory buf (data.length+1) 0 data) := by
  have offset' : (connection.handler.fill buf data).requestOffset = 0 := by cases buf <;> exact offset
  simp only [doHandleEpollRead,closed,arrived,requested,offset,target,pos,came,Nat.sub_zero,
    Bool.false_eq_true,
    or_self,if_false,PacketHandler.onHandleRequest,offset']
  rcases (connection.handler.fill buf data).work memory buf (data.length+1) 0 data with ⟨after,res⟩
  cases res <;> rfl

theorem receive_turn
    {whole : Bool} (closed : connection.closed = false) (arrived : connection.stream ≠ [])
    (pos : size ≠ 0) (requested : connection.handler.requestSize = size)
    (offset : connection.handler.requestOffset = 0) (target : connection.handler.requestBuffer = some buf)
    (came : connection.stream.take (min (split connection.reads + 1) size) = data)
    (turn : Turn commonHeader {connection.handler.machine with calls := []} data whole machine) :
    doHandleEpollRead memory split connection =
      ⟨machine.calls.foldl (PacketHandler.onCall memory)
        {connection.handler.fill buf data with machine := machine},
        connection.stream.drop data.length,connection.reads+1,false⟩ := by
  have same : (connection.handler.fill buf data).machine = connection.handler.machine := by cases buf <;> rfl
  rw [← same] at turn
  have worked := work_turn memory _ turn [] (Or.inr rfl) buf data.length 0
  rw [append_nil] at worked
  rw [receive_eq memory split connection closed arrived pos requested offset target came,worked]
  rfl

theorem receive_closes (arrived : connection.stream ≠ [])
    (stuck : connection.handler.requestSize - connection.handler.requestOffset = 0 ∨
      connection.handler.requestBuffer = none) :
      (doHandleEpollRead memory split connection).closed = true := by
  by_cases closed : connection.closed = true
  · simp [doHandleEpollRead,closed]
  · simp only [doHandleEpollRead]
    rw [if_neg (not_or.mpr ⟨closed,arrived⟩)]
    split_ifs with empty
    · rfl
    · rcases stuck with stuck | stuck
      · exact absurd stuck empty
      · simp only [stuck]

section
variable {whole more extra : Bytes} {finished got : Nat}

theorem rest_ne_nil (short : finished < whole.length) : whole.drop finished ++ more ≠ [] := by
  intro empty
  have sizes := congrArg length empty
  simp only [length_append,length_drop,length_nil] at sizes
  omega

section
variable (short : finished + got ≤ whole.length)
include short

theorem length_part :
    ((whole.drop finished).take got).length = got := by
  rw [length_take,length_drop]
  omega

theorem take_part :
    (whole.drop finished ++ more).take got = (whole.drop finished).take got :=
  take_append_of_le_length (by rw [length_drop]; omega)

theorem drop_part :
    (whole.drop finished ++ more).drop got = whole.drop (finished + got) ++ more := by
  rw [drop_append_of_le_length (by rw [length_drop]; omega),drop_drop]

end

theorem take_rest (unfinished : finished ≤ whole.length) (enough : whole.length ≤ finished + got) :
    (whole.drop finished ++ more).take got =
      whole.drop finished ++ more.take (finished + got - whole.length) := by
  have size : (whole.drop finished).length = whole.length - finished := length_drop
  rw [take_append,take_of_length_le (by omega)]
  congr 2
  omega

theorem drop_rest : (whole.drop finished ++ more).drop (whole.drop finished ++ extra).length =
    more.drop extra.length := by
  rw [length_append,drop_append,drop_eq_nil_of_le (by omega),Nat.add_sub_cancel_left,nil_append]

end

/-- The header of the first message is being received; `finished` bytes of it have come. -/
structure Heading (header : Bytes) (finished : Nat) (connection : Connection) : Prop where
  closed : connection.closed = false
  requested : connection.handler.requestSize = 8
  offset : connection.handler.requestOffset = 0
  target : connection.handler.requestBuffer = some .requestHeader
  state : connection.handler.machine.state = .header
  length : connection.handler.machine.header.length = 8
  size : connection.handler.machine.finishedSize = finished
  begun : connection.handler.machine.header.take finished = header.take finished
  messages : connection.handler.messages = []

variable {header : Bytes} {finished : Nat} {conn : Connection} {more : Bytes}

theorem Heading.receive
    (heading : Heading header finished conn) (whole : header.length = 8)
    (short : finished + min (split conn.reads + 1) 8 < 8)
    (coming : conn.stream = header.drop finished ++ more) :
    Heading header (finished + min (split conn.reads + 1) 8) (doHandleEpollRead memory split conn) ∧
      (doHandleEpollRead memory split conn).stream =
        header.drop (finished + min (split conn.reads + 1) 8) ++ more ∧
      (doHandleEpollRead memory split conn).reads = conn.reads + 1 := by
  generalize count : min (split conn.reads + 1) 8 = got at short ⊢
  have part : finished + got ≤ header.length := whole ▸ short.le
  have came : conn.stream.take got = (header.drop finished).take got := by rw [coming,take_part part]
  have arrived : conn.stream ≠ [] := by
    rw [coming]
    exact rest_ne_nil (by omega)
  have size := length_part part
  have turn : Turn commonHeader {conn.handler.machine with calls := []} ((header.drop finished).take got)
      false _ := .headerPart heading.state (by
        rw [size]
        exact heading.size ▸ short)
  rw [receive_turn memory split conn heading.closed arrived (by decide) heading.requested heading.offset
    heading.target (count ▸ came) turn]
  have fits : conn.handler.machine.finishedSize + ((header.drop finished).take got).length ≤
      commonHeader.headerSize := by
    rw [heading.size,size]
    exact short.le
  obtain ⟨length,begun⟩ := Net.copy_header ((header.drop finished).take got) heading.length fits
  rw [heading.size,size,heading.begun] at begun
  refine ⟨{heading with closed := rfl, length, size := ?_, begun := ?_},?_,rfl⟩
  · show conn.handler.machine.finishedSize + _ = _
    rw [heading.size,size]
  · exact begun.trans take_add.symm
  · show conn.stream.drop _ = _
    rw [size,coming,drop_part part]

variable (receives : Nat)

theorem taken_lt : taken split receives < taken split (receives+1) := by
  rw [taken]
  omega

theorem serving_heading (header more : Bytes) (whole : header.length = 8) (receives : Nat)
    (short : taken split receives < 8) :
    Heading header (taken split receives) (serving memory split (header++more) receives) ∧
      (serving memory split (header++more) receives).stream = header.drop (taken split receives) ++ more ∧
      (serving memory split (header++more) receives).reads = receives := by
  induction receives with
  | zero =>
    refine ⟨⟨rfl,rfl,rfl,rfl,rfl,?_,rfl,rfl,rfl⟩,rfl,rfl⟩
    simp [serving,PacketHandler.new,Machine.reset,bytesAt]
  | succ receives ih =>
    obtain ⟨heading,coming,reads⟩ := ih ((taken_lt split receives).trans short)
    rw [serving,iterate_succ_apply']
    have next := heading.receive memory split whole (by rw [reads]; exact short) coming
    rwa [reads] at next

theorem onCalls_empty (empty : commonHeader.bodySize header = 0) :
    [.onHeader header,.onMessage header 0 []].foldl (PacketHandler.onCall memory) handler =
      ⟨header,0,0,none,handler.machine,handler.messages ++ [(header,[])]⟩ := by
  simp [PacketHandler.onCall,PacketHandler.onMessage,PacketHandler.onHeader,PacketHandler.contents,empty]

/-- The handler when the first header is complete, after `finished` bytes of it in earlier receives. -/
def headed (header : Bytes) (finished : Nat) : PacketHandler :=
  if commonHeader.bodySize header = 0 then
    ⟨header,0,0,none,⟨header,.header,finished,[.onHeader header,.onMessage header 0 []]⟩,[(header,[])]⟩
  else
    ⟨header,commonHeader.bodySize header,0,
      some (.block (bytesAt (memory.fresh 1) 0 (commonHeader.bodySize header))),
      ⟨header,.body,0,[.onHeader header]⟩,[]⟩

theorem copy_complete (machine : Machine) (header : Bytes) (length : machine.header.length = 8)
    (whole : header.length = 8) (short : machine.finishedSize < 8)
    (front : machine.header.take machine.finishedSize = header.take machine.finishedSize) :
    machine.copy (header.drop machine.finishedSize) = {machine with header := header} := by
  have fits : machine.finishedSize + (header.drop machine.finishedSize).length = commonHeader.headerSize := by
    rw [length_drop,whole]
    exact Nat.add_sub_cancel' short.le
  have filled := Net.copy_whole (header.drop machine.finishedSize) length fits
  rw [front,take_append_drop] at filled
  calc machine.copy (header.drop machine.finishedSize)
      = {machine with header := (machine.copy (header.drop machine.finishedSize)).header} := rfl
    _ = {machine with header := header} := by rw [filled]

theorem header_turn {begun : Bytes} (header : Bytes) (length : begun.length = 8) (whole : header.length = 8)
    (short : finished < 8) (front : begun.take finished = header.take finished) :
    Turn commonHeader ⟨begun,.header,finished,[]⟩ (header.drop finished) true
      (if commonHeader.bodySize header =
        0 then ⟨header,.header,finished,[.onHeader header,.onMessage header 0 []]⟩
      else ⟨header,.body,0,[.onHeader header]⟩) := by
  have copied := copy_complete ⟨begun,.header,finished,[]⟩ header length whole short front
  have fits : finished + (header.drop finished).length = commonHeader.headerSize := by
    rw [length_drop,whole]
    exact Nat.add_sub_cancel' short.le
  split_ifs with empty
  · have turn : Turn commonHeader ⟨begun,.header,finished,[]⟩ (header.drop finished) true _ :=
      .headerEmpty rfl fits (by rw [copied,empty]; decide)
    rwa [copied] at turn
  · have turn : Turn commonHeader ⟨begun,.header,finished,[]⟩ (header.drop finished) true _ :=
      .headerBody rfl fits (by rw [copied]; exact Nat.pos_of_ne_zero empty)
    rwa [copied] at turn

theorem header_work {begun : Bytes} (length : begun.length = 8) (whole : header.length = 8)
    (short : finished < 8) (front : begun.take finished = header.take finished) {requestHeader extra : Bytes}
    {calls : List Call} {rounds : Nat} :
    (⟨requestHeader,8,0,some .requestHeader,⟨begun,.header,finished,calls⟩,[]⟩ : PacketHandler).work
      memory .requestHeader
        (rounds+1) 0 (header.drop finished ++ extra) =
      if extra = [] then (headed memory header finished,.handleFinish)
      else (headed memory header finished).work memory .requestHeader rounds (8-finished)
        ((header.drop (8-finished)).take extra.length) := by
  have turn := header_turn header length whole short front
  have size : (header.drop finished).length = 8 - finished := by rw [length_drop,whole]
  have worked := work_turn memory ⟨requestHeader,8,0,some .requestHeader,
    ⟨begun,.header,finished,calls⟩,[]⟩ turn extra
    (Or.inl rfl) .requestHeader rounds 0
  rw [worked,size]
  by_cases empty : commonHeader.bodySize header = 0
  · simp only [if_pos empty,onCalls_empty memory _ empty,headed,PacketHandler.reread,Nat.zero_add,nil_append]
  · simp [headed,empty,PacketHandler.onCall,PacketHandler.onHeader,PacketHandler.reread]

variable (extra : Bytes)

theorem Heading.complete
    (split : Nat → Nat) (heading : Heading header finished conn) (whole : header.length = 8)
    (short : finished < 8) (enough : 8 ≤ finished + min (split conn.reads + 1) 8)
    (coming : conn.stream = header.drop finished ++ more)
    (came : more.take (finished + min (split conn.reads + 1) 8 - 8) = extra) :
    doHandleEpollRead memory split conn = .behind (more.drop extra.length) (conn.reads+1)
        (if extra = [] then (headed memory header finished,.handleFinish)
        else (headed memory header finished).work memory .requestHeader
          (8 - finished + extra.length) (8-finished)
          ((header.drop (8-finished)).take extra.length)) := by
  have arrived : conn.stream ≠ [] := by
    rw [coming]
    exact rest_ne_nil (whole ▸ short)
  have size : (header.drop finished).length = 8 - finished := by rw [length_drop,whole]
  have data : conn.stream.take (min (split conn.reads + 1) 8) = header.drop finished ++ extra := by
    rw [coming,take_rest (whole ▸ short.le) (whole ▸ enough),whole,came]
  have left : conn.stream.drop (header.drop finished ++ extra).length = more.drop extra.length := by
    rw [coming,drop_rest]
  rw [receive_eq memory split conn heading.closed arrived (by decide) heading.requested heading.offset
    heading.target data,left]
  obtain ⟨⟨requestHeader,_,_,_,⟨begun,_,reached,calls⟩,_⟩,stream,reads,_⟩ := conn
  obtain ⟨closed,requested,offset,target,state,length,size',front,messages⟩ := heading
  subst closed requested offset target state size' messages
  rw [length_append,size]
  exact congrArg _ (header_work memory length whole short front)

theorem exists_completing : ∃ receives, taken split receives < 8 ∧ 8 ≤ taken split (receives+1) := by
  by_contra never
  have stays : ∀ receives, taken split receives < 8 → taken split (receives+1) < 8 :=
    fun receives short => Nat.lt_of_not_le (fun enough => never ⟨receives,short,enough⟩)
  have short : ∀ receives, taken split receives < 8 := by
    intro receives
    induction receives with
    | zero => exact Nat.zero_lt_succ 7
    | succ receives ih => exact stays receives ih
  have grows : ∀ receives, receives ≤ taken split receives := by
    intro receives
    induction receives with
    | zero => exact Nat.zero_le _
    | succ receives ih => exact Nat.succ_le_of_lt (ih.trans_lt (taken_lt split receives))
  exact absurd (grows 8) (Nat.not_le.mpr (short 8))

theorem serving_succ : serving memory split stream (receives+1) =
      doHandleEpollRead memory split (serving memory split stream receives) := by
  rw [serving,iterate_succ_apply',← serving]

theorem serving_headed {split : Nat → Nat} (more extra : Bytes) (whole : header.length = 8) {receives : Nat}
    (short : taken split receives < 8) (enough : 8 ≤ taken split (receives+1))
    (came : more.take (taken split (receives+1) - 8) = extra) :
    serving memory split (header++more) (receives+1) =
      .behind (more.drop extra.length) (receives+1)
        (if extra = [] then (headed memory header (taken split receives),.handleFinish)
        else (headed memory header (taken split receives)).work memory .requestHeader
          (8 - taken split receives + extra.length) (8 - taken split receives)
          ((header.drop (8 - taken split receives)).take extra.length)) := by
  obtain ⟨heading,coming,reads⟩ := serving_heading memory split header more whole receives short
  rw [serving_succ,heading.complete memory extra split whole short (by rw [reads]; exact enough) coming
    (by rw [reads]; exact came),reads]

theorem empty_work (handler : PacketHandler) (pos : Nat) (buf : Bytes)
    (state : handler.machine.state = .header) (length : handler.machine.header.length = 8)
    (short : handler.machine.finishedSize < 8) (requested : handler.requestSize = 0)
    (stays : handler.machine.finishedSize + buf.length < 8 ∨
      4 ≤ handler.machine.finishedSize ∧ commonHeader.bodySize handler.machine.header = 0) :
    (handler.work memory source rounds pos buf).1.requestSize = 0 := by
  induction rounds generalizing handler pos buf with
  | zero => exact requested
  | succ rounds ih =>
    obtain ⟨requestHeader,requestSize,requestOffset,requestBuffer,⟨begun,_,finished,calls⟩,
      messages⟩ := handler
    dsimp only at *
    subst state requested
    by_cases part : finished + buf.length < 8
    · have turn : Turn commonHeader ⟨begun,.header,finished,[]⟩ buf false _ := .headerPart rfl part
      have worked := work_turn memory ⟨requestHeader,0,requestOffset,requestBuffer,
        ⟨begun,.header,finished,calls⟩,messages⟩
        turn [] (Or.inr rfl) source rounds pos
      rw [append_nil] at worked
      rw [worked]
      rfl
    · obtain ⟨four,zero⟩ := stays.resolve_left part
      have size : (begun.take finished).length = finished := by
        rw [length_take]
        omega
      -- the size field lies in the bytes that are kept from the header before
      have kept : commonHeader.bodySize (begun.take finished ++ buf.take (8-finished)) = 0 := by
        rw [← zero]
        show ofBytes (take 4 _) = ofBytes (take 4 _)
        rw [take_append_of_le_length (by omega),take_take,Nat.min_eq_left four]
      have turn := header_turn (begun.take finished ++ buf.take (8-finished)) length
        (by rw [length_append,size,length_take]; omega) short (by rw [take_left' size])
      rw [if_pos kept,drop_left' size] at turn
      have worked := work_turn memory ⟨requestHeader,0,requestOffset,requestBuffer,
        ⟨begun,.header,finished,calls⟩,messages⟩
        turn (buf.drop (8-finished)) (Or.inl rfl) source rounds pos
      rw [take_append_drop] at worked
      rw [worked,onCalls_empty memory _ kept]
      by_cases last : buf.drop (8-finished) = []
      · rw [if_pos last]
      · rw [if_neg last]
        exact ih _ _ _ rfl (by rw [length_append,size,length_take]; omega) short rfl (Or.inr ⟨four,kept⟩)

end

end Mooon.Server

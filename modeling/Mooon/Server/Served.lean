import Mooon.Server.Framing

/-! Exactly which messages reach the observer: one at most, and its body only when a receive
ends behind the header and the next one takes the whole body. Otherwise some bytes that the
observer gets are bytes of memory that no receive has written. -/
namespace Mooon.Server
open Net (Bytes HandleResult Call Machine Turn)
open List

theorem work_prefix (memory : Memory) (handler : PacketHandler) {data : Bytes} {machine : Machine}
    (turn : Turn commonHeader {handler.machine with calls := []} data true machine) (rest : Bytes)
    (source : Buffer) (rounds pos : Nat) :
    (machine.calls.foldl (PacketHandler.onCall memory) {handler with machine := machine}).messages <+:
      (handler.work memory source (rounds+1) pos (data++rest)).1.messages := by
  rw [work_turn memory handler turn rest (.inl rfl)]
  split_ifs
  · exact prefix_rfl
  · exact work_messages memory _ _ _ _ _

/-- The body of the first message is being received: `finished` bytes of it have come, and no
receive has written the last byte of the block. -/
structure Filling (memory : Memory) (header : Bytes) (size finished : Nat)
    (connection : Connection) : Prop where
  closed : connection.closed = false
  handler : ∃ requestHeader content calls,
    connection.handler = ⟨requestHeader,size,0,some (.block content),⟨header,.body,finished,calls⟩,[]⟩ ∧
      content.length = size ∧ content.getLast? = some (memory.fresh 1 (size-1))

section
variable {memory : Memory} {header body more : Bytes} {finished : Nat} {conn : Connection}

section
variable (contents : Nat → UInt8)

theorem bytesAt_length (offset length : Nat) : (bytesAt contents offset length).length = length := by
  simp [bytesAt]

theorem bytesAt_getLast {length : Nat} (pos : 0 < length) :
    (bytesAt contents 0 length).getLast? = some (contents (length-1)) := by
  obtain ⟨length,rfl⟩ := Nat.exists_eq_succ_of_ne_zero pos.ne'
  simp [bytesAt,range_succ]

theorem bytesAt_add (offset first second : Nat) :
    bytesAt contents offset (first+second) = bytesAt contents offset first ++
      bytesAt contents (offset+first) second := by
  simp [bytesAt,range_add,Nat.add_assoc]

end

theorem overlay_getLast {content data : Bytes} (shorter : data.length < content.length) :
    (overlay content 0 data).getLast? = content.getLast? := by
  have left : content.drop data.length ≠ [] := by
    intro empty
    have := drop_eq_nil_iff.mp empty
    omega
  rw [overlay,Nat.zero_add,getLast?_append_of_ne_nil _ left]
  rw [getLast?_drop,if_neg (by omega)]

variable {finishedSize bufferSize : Nat}

theorem onMessage_last (handler : PacketHandler)
    (whole : finishedSize + bufferSize = commonHeader.bodySize header) :
    handler.onMessage header finishedSize bufferSize =
      {handler with requestBuffer := none, messages := handler.messages ++ [(header,handler.contents)]} :=
  if_pos whole

theorem onMessage_part (handler : PacketHandler)
    (part : finishedSize + bufferSize ≠ commonHeader.bodySize header) :
    handler.onMessage header finishedSize bufferSize = handler :=
  if_neg part

theorem Filling.receive (split : Nat → Nat) (filling : Filling memory header body.length finished conn)
    (sized : commonHeader.bodySize header = body.length)
    (short : finished + min (split conn.reads + 1) body.length < body.length)
    (coming : conn.stream = body.drop finished ++ more) :
    Filling memory header body.length (finished + min (split conn.reads + 1) body.length)
        (doHandleEpollRead memory split conn) ∧ (doHandleEpollRead memory split conn).stream =
        body.drop (finished + min (split conn.reads + 1) body.length) ++ more ∧
      (doHandleEpollRead memory split conn).reads = conn.reads + 1 := by
  obtain ⟨_,stream,reads,_⟩ := conn
  obtain ⟨closed,requestHeader,content,calls,handler,length,last⟩ := filling
  dsimp only at *
  subst closed handler
  generalize count : min (split reads + 1) body.length = got at short ⊢
  have arrived : stream ≠ [] := by
    rw [coming]
    exact rest_ne_nil (by omega)
  have came : stream.take got = (body.drop finished).take got := by rw [coming,take_part short.le]
  have size : ((body.drop finished).take got).length = got := length_part short.le
  have part : finished + ((body.drop finished).take got).length < commonHeader.bodySize header := by
    rw [size,sized]
    exact short
  have turn : Turn commonHeader ⟨header,.body,finished,[]⟩ ((body.drop finished).take got) false
      ⟨header,.body,finished + ((body.drop finished).take got).length,
        [.onMessage header finished ((body.drop finished).take got)]⟩ := .bodyPart rfl part
  have pos : body.length ≠ 0 := by omega
  rw [size] at part turn
  rw [receive_turn memory split _ rfl arrived pos rfl rfl rfl (by rw [count]; exact came) turn]
  refine ⟨⟨rfl,requestHeader,overlay content 0 ((body.drop finished).take got),
    [.onMessage header finished ((body.drop finished).take got)],?_,?_,?_⟩,?_,rfl⟩
  · simp only [foldl_cons,foldl_nil,PacketHandler.onCall,size,onMessage_part _ part.ne,PacketHandler.fill]
  · rw [overlay,take_zero,nil_append,length_append,length_drop]
    omega
  · rw [overlay_getLast (by omega),last]
  · show stream.drop _ = _
    rw [size,coming,drop_part short.le]

def given (header content : Bytes) (requestHeader : Bytes) (calls : List Call) : PacketHandler :=
  ⟨requestHeader,commonHeader.bodySize header,0,none,⟨header,.header,0,calls⟩,[(header,content)]⟩

theorem given_short (memory : Memory) (source : Buffer) (content requestHeader : Bytes) (calls : List Call)
    (rounds pos : Nat) {bytes : Bytes} (few : bytes.length < 8) :
    ((given header content requestHeader calls).work memory source (rounds+1) pos
      bytes).1.requestBuffer = none := by
  have turn : Turn commonHeader ⟨header,.header,0,[]⟩ bytes false _ :=
    .headerPart rfl (by rw [Nat.zero_add]; exact few)
  have worked := work_turn memory (given header content requestHeader calls) turn [] (.inr rfl)
    source rounds pos
  rw [append_nil] at worked
  rw [worked]
  rfl

theorem given_header (memory : Memory) (source : Buffer) (content requestHeader : Bytes) (calls : List Call)
    (rounds pos : Nat) {next : Bytes} (length : header.length = 8) (whole : next.length = 8)
    (empty : commonHeader.bodySize next = 0) (rest : Bytes) : [(header,content),(next,[])] <+:
      ((given header content requestHeader calls).work memory source (rounds+1) pos
        (next++rest)).1.messages := by
  have turn := header_turn next length whole (Nat.zero_lt_succ 7) rfl
  rw [if_pos empty] at turn
  have kept := work_prefix memory (given header content requestHeader calls) turn rest source rounds pos
  rwa [onCalls_empty memory _ empty] at kept

theorem Filling.complete (extra : Bytes) (split : Nat → Nat)
    (filling : Filling memory header body.length finished conn)
    (sized : commonHeader.bodySize header = body.length) (unfinished : finished < body.length)
    (enough : body.length ≤ finished + min (split conn.reads + 1) body.length)
    (coming : conn.stream = body.drop finished ++ more)
    (came : more.take (finished + min (split conn.reads + 1) body.length - body.length) = extra) :
    ∃ requestHeader content calls rounds, content.length = body.length ∧
      content.getLast? = some (memory.fresh 1 (body.length-1)) ∧
      doHandleEpollRead memory split conn =
        let after := given header (overlay content 0 (body.drop finished ++ extra)) requestHeader calls
        .behind (more.drop extra.length) (conn.reads+1)
          (if extra = [] then (after,.handleFinish)
          else after.work memory (.block content) (rounds+1) (body.length-finished)
            (bytesAt (memory.given 1) (body.length-finished) extra.length)) := by
  obtain ⟨_,stream,reads,_⟩ := conn
  obtain ⟨closed,requestHeader,content,calls,handler,length,last⟩ := filling
  dsimp only at *
  subst closed handler
  have arrived : stream ≠ [] := by
    rw [coming]
    exact rest_ne_nil unfinished
  have size : (body.drop finished).length = body.length - finished := length_drop
  have data : stream.take (min (split reads + 1) body.length) = body.drop finished ++ extra := by
    rw [coming,take_rest unfinished.le enough,came]
  have left : stream.drop (body.drop finished ++ extra).length = more.drop extra.length := by
    rw [coming,drop_rest]
  have all : finished + (body.drop finished).length = commonHeader.bodySize header := by
    omega
  have turn : Turn commonHeader ⟨header,.body,finished,[]⟩ (body.drop finished) true
      ⟨header,.header,0,[.onMessage header finished (body.drop finished)]⟩ := .bodyEnd rfl all
  have pos : body.length ≠ 0 := by omega
  have worked := work_turn memory ⟨requestHeader,body.length,0,
    some (.block (overlay content 0 (body.drop finished ++ extra))),
    ⟨header,.body,finished,calls⟩,[]⟩ turn extra (.inl rfl) (.block content)
      (body.drop finished ++ extra).length 0
  refine ⟨requestHeader,content,[.onMessage header finished (body.drop finished)],
    (body.drop finished ++ extra).length-1,length,last,?_⟩
  rw [receive_eq memory split _ rfl arrived pos rfl rfl rfl data,left]
  refine congrArg _ (worked.trans ?_)
  have rounds : (body.drop finished ++ extra).length - 1 + 1 = (body.drop finished ++ extra).length := by
    rw [length_append]
    omega
  rw [rounds]
  rw [← size]
  simp only [foldl_cons,PacketHandler.onCall,onMessage_last _ all]
  rw [given,sized,Nat.zero_add]
  rfl

end

section
variable {split : Nat → Nat} {header body : Bytes} (more : Bytes) (whole : header.length = 8)
  (sized : commonHeader.bodySize header = body.length) (loaded : body ≠ [])

include sized loaded in
theorem headed_body (memory : Memory) (finished : Nat) : headed memory header finished =
    ⟨header,body.length,0,some (.block (bytesAt (memory.fresh 1) 0 body.length)),
      ⟨header,.body,0,[.onHeader header]⟩,[]⟩ := by
  rw [headed,sized,if_neg (length_pos_iff.mpr loaded).ne']

variable {receives : Nat} (short : taken split receives < 8) (enough : 8 ≤ taken split (receives+1))
include whole sized loaded short enough

theorem serving_filling_first (memory : Memory) (few : taken split (receives+1) - 8 < body.length) :
    Filling memory header body.length (taken split (receives+1) - 8)
        (serving memory split (header ++ (body++more)) (receives+1)) ∧
      (serving memory split (header ++ (body++more)) (receives+1)).stream =
        body.drop (taken split (receives+1) - 8) ++ more ∧
      (serving memory split (header ++ (body++more)) (receives+1)).reads = receives+1 := by
  have came : (body++more).take (taken split (receives+1) - 8) = body.take (taken split (receives+1) - 8) :=
    take_append_of_le_length few.le
  have bound : taken split (receives+1) - 8 ≤ taken split receives := by
    rw [taken]
    omega
  rw [serving_headed memory _ _ whole short enough came,headed_body sized loaded]
  generalize taken split (receives+1) - 8 = extra at few bound ⊢
  have size : (body.take extra).length = extra := by
    rw [length_take]
    omega
  have left : (body++more).drop (body.take extra).length = body.drop extra ++ more := by
    rw [size,drop_append_of_le_length few.le]
  have block := bytesAt_getLast (memory.fresh 1) (length_pos_iff.mpr loaded)
  rw [left,size]
  by_cases none : extra = 0
  · subst none
    exact ⟨⟨rfl,_,_,_,rfl,bytesAt_length _ _ _,block⟩,rfl,rfl⟩
  · have nonempty : body.take extra ≠ [] := by
      intro empty
      rw [empty] at size
      exact none size.symm
    rw [if_neg nonempty]
    obtain ⟨rounds,count⟩ : ∃ rounds, 8 - taken split receives + extra = rounds+1 :=
      ⟨_,(Nat.succ_pred (by omega)).symm⟩
    have length : ((header.drop (8 - taken split receives)).take extra).length = extra := by
      rw [length_take,length_drop]
      omega
    generalize (header.drop (8 - taken split receives)).take extra = bytes at length ⊢
    have part : 0 + bytes.length < commonHeader.bodySize header := by
      rw [length,sized,Nat.zero_add]
      exact few
    have turn : Turn commonHeader ⟨header,.body,0,[]⟩ bytes false
        ⟨header,.body,0 + bytes.length,[.onMessage header 0 bytes]⟩ := .bodyPart rfl part
    have worked := work_turn memory ⟨header,body.length,0,
      some (.block (bytesAt (memory.fresh 1) 0 body.length)),
      ⟨header,.body,0,[.onHeader header]⟩,[]⟩ turn [] (.inr rfl) .requestHeader rounds
        (8 - taken split receives)
    simp only [append_nil,foldl_cons,PacketHandler.onCall,onMessage_part _ part.ne] at worked
    rw [length,Nat.zero_add] at worked
    rw [count,worked]
    exact ⟨⟨rfl,_,_,_,rfl,bytesAt_length _ _ _,block⟩,rfl,rfl⟩

theorem serving_lost (memory : Memory) (many : body.length ≤ taken split (receives+1) - 8) :
    [(header,bytesAt (memory.fresh 1) 0 body.length)] <+:
      (serving memory split (header ++ (body++more)) (receives+1)).handler.messages := by
  have bound : taken split (receives+1) - 8 ≤ taken split receives := by
    rw [taken]
    omega
  have pos := length_pos_iff.mpr loaded
  rw [serving_headed memory _ _ whole short enough rfl,headed_body sized loaded]
  generalize taken split (receives+1) - 8 = extra at many bound ⊢
  have size : body.length ≤ ((body++more).take extra).length ∧ ((body++more).take extra).length ≤ extra := by
    rw [length_take,length_append]
    omega
  generalize (body++more).take extra = came at size ⊢
  have nonempty : came ≠ [] := by
    rintro rfl
    exact absurd size.1 (Nat.not_le.mpr pos)
  rw [if_neg nonempty]
  obtain ⟨rounds,count⟩ : ∃ rounds, 8 - taken split receives + came.length = rounds+1 :=
    ⟨_,(Nat.succ_pred (by omega)).symm⟩
  generalize buf : (header.drop (8 - taken split receives)).take came.length = bytes
  have length : bytes.length = came.length := by
    rw [← buf,length_take,length_drop]
    omega
  have all : 0 + (bytes.take body.length).length = commonHeader.bodySize header := by
    rw [length_take]
    omega
  have turn : Turn commonHeader ⟨header,.body,0,[]⟩ (bytes.take body.length) true
      ⟨header,.header,0,[.onMessage header 0 (bytes.take body.length)]⟩ := .bodyEnd rfl all
  have kept := work_prefix memory ⟨header,body.length,0,
    some (.block (bytesAt (memory.fresh 1) 0 body.length)),
    ⟨header,.body,0,[.onHeader header]⟩,[]⟩ turn (bytes.drop body.length) .requestHeader rounds
      (8 - taken split receives)
  rw [take_append_drop] at kept
  rw [count]
  simp only [foldl_cons,PacketHandler.onCall,onMessage_last _ all] at kept
  exact kept

end

variable {split : Nat → Nat}

theorem exists_completing_body {stream header body more : Bytes} {start first : Nat}
    (sized : commonHeader.bodySize header = body.length) (unfinished : first < body.length)
    (begun : ∀ memory, Filling memory header body.length first (serving memory split stream start) ∧
      (serving memory split stream start).stream = body.drop first ++ more ∧
      (serving memory split stream start).reads = start) :
    ∃ receives finished, finished < body.length ∧ (receives = start ∧ finished = first ∨ first < finished) ∧
      body.length ≤ finished + min (split receives + 1) body.length ∧
      ∀ memory, Filling memory header body.length finished (serving memory split stream receives) ∧
        (serving memory split stream receives).stream = body.drop finished ++ more ∧
        (serving memory split stream receives).reads = receives := by
  induction left : body.length - first using Nat.strongRecOn generalizing first start with
  | _ size ih =>
    by_cases enough : body.length ≤ first + min (split start + 1) body.length
    · exact ⟨start,first,unfinished,.inl ⟨rfl,rfl⟩,enough,begun⟩
    · have next : ∀ memory, Filling memory header body.length (first + min (split start + 1) body.length)
            (serving memory split stream (start+1)) ∧
          (serving memory split stream (start+1)).stream =
            body.drop (first + min (split start + 1) body.length) ++ more ∧
          (serving memory split stream (start+1)).reads = start+1 := by
        intro memory
        obtain ⟨filling,coming,reads⟩ := begun memory
        have got := filling.receive split sized (by rw [reads]; omega) coming
        rw [reads] at got
        rwa [serving_succ]
      obtain ⟨receives,finished,short,place,completes,reached⟩ := ih _ (by omega) (by omega) next rfl
      refine ⟨receives,finished,short,.inr ?_,completes,reached⟩
      rcases place with ⟨-,rfl⟩ | further
      · omega
      · omega

variable {msg : Message} {rest : List Message}

theorem Message.body_eq_of_prefix {body : Bytes} {seen : List (Bytes × Bytes)}
    (first : [(msg.header,body)] <+: seen)
    (sent : seen <+: (msg::rest).map (fun msg => (msg.header,msg.body))) : body = msg.body := by
  obtain ⟨later,shape⟩ := first.trans sent
  simp only [map_cons,singleton_append,cons.injEq,Prod.mk.injEq,true_and] at shape
  exact shape.1

theorem succ_ne (byte : UInt8) : byte + 1 ≠ byte := by
  intro same
  have values := congrArg UInt8.toNat same
  simp only [UInt8.toNat_add,UInt8.toNat_one] at values
  omega

theorem exists_spoiling (body : Bytes) : ∃ byte : UInt8, body.getLast? ≠ some byte := by
  cases last : body.getLast? with
  | none => exact ⟨0,by simp⟩
  | some byte => exact ⟨byte+1,fun same => succ_ne byte (Option.some.inj same).symm⟩

theorem streamOf_cons (msg : Message) (rest : List Message) :
    streamOf (msg::rest) = msg.header ++ (msg.body ++ streamOf rest) := by
  simp [streamOf,Message.bytes]

theorem streamOf_length (some : rest ≠ []) : 8 ≤ (streamOf rest).length := by
  obtain ⟨msg,rest,rfl⟩ := exists_cons_of_ne_nil some
  rw [streamOf_cons,length_append,msg.whole]
  exact Nat.le_add_right _ _

variable {memory : Memory} {messages : List Message} {receives : Nat}

theorem Served.not_stuck (served : Served memory split messages)
    (stuck : (serving memory split (streamOf messages) receives).handler.requestSize = 0 ∨
      (serving memory split (streamOf messages) receives).handler.requestBuffer = none) :
    (serving memory split (streamOf messages) receives).stream = [] := by
  by_contra arrived
  have closes := receive_closes memory split (serving memory split (streamOf messages) receives) arrived
    (stuck.imp_left (fun requested => by rw [requested,Nat.zero_sub]))
  rw [← serving_succ,(served.1 (receives+1)).1] at closes
  cases closes

theorem Served.alone_of_empty (served : Served memory split (msg::rest)) (empty : msg.body = []) :
    rest = [] := by
  by_contra more
  obtain ⟨receives,short,enough⟩ := exists_completing split
  have zero : commonHeader.bodySize msg.header = 0 := by rw [msg.sized,empty,length_nil]
  have bound : taken split (receives+1) - 8 ≤ taken split receives := by
    rw [taken]
    omega
  generalize size : (streamOf rest).take (taken split (receives+1) - 8) = extra
  have length : extra.length ≤ taken split receives := by
    rw [← size,length_take]
    omega
  have shape : streamOf (msg::rest) = msg.header ++ streamOf rest := by
    rw [streamOf_cons,empty,nil_append]
  have state := serving_headed memory _ _ msg.whole short enough size
  rw [← shape] at state
  have stuck : (serving memory split (streamOf (msg::rest)) (receives+1)).handler.requestSize = 0 := by
    rw [state,headed]
    split_ifs
    · rfl
    · refine empty_work memory _ _ _ _ _ rfl msg.whole short rfl ?_
      rw [length_take]
      dsimp only
      by_cases part : taken split receives < 4
      · exact .inl (by omega)
      · exact .inr ⟨by omega,zero⟩
  have left := served.not_stuck (.inl stuck)
  rw [state] at left
  have gone := drop_eq_nil_iff.mp left
  have long := streamOf_length more
  omega

section
variable {split : Nat → Nat} {msg : Message} {rest : List Message}
  (served : ∀ memory, Served memory split (msg::rest))
include served

theorem served_written (receives : Nat) (got : ∀ memory, ∃ contents,
    [(msg.header,contents)] <+: (serving memory split (streamOf (msg::rest)) receives).handler.messages ∧
      contents.getLast? = some (memory.fresh 1 (msg.body.length-1))) : False := by
  obtain ⟨byte,spoiled⟩ := exists_spoiling msg.body
  obtain ⟨contents,first,unwritten⟩ := got ⟨fun _ _ => byte,fun _ _ => 0⟩
  have body := Message.body_eq_of_prefix first ((served ⟨fun _ _ => byte,fun _ _ => 0⟩).1 receives).2
  exact spoiled (by rw [← body,unwritten])

theorem served_few (loaded : msg.body ≠ []) (short : taken split receives < 8)
    (enough : 8 ≤ taken split (receives+1)) : taken split (receives+1) - 8 < msg.body.length := by
  by_contra many
  refine served_written served (receives+1) (fun memory => ⟨_,?_,bytesAt_getLast (memory.fresh 1)
    (length_pos_iff.mpr loaded)⟩)
  rw [streamOf_cons]
  exact serving_lost (streamOf rest) msg.whole msg.sized loaded short enough memory (Nat.not_lt.mp many)

variable {receives finished : Nat} (unfinished : finished < msg.body.length)
  (enough : msg.body.length ≤ finished + min (split receives + 1) msg.body.length)
  (reached : ∀ memory, Filling memory msg.header msg.body.length finished
      (serving memory split (streamOf (msg::rest)) receives) ∧
    (serving memory split (streamOf (msg::rest)) receives).stream = msg.body.drop finished ++ streamOf rest ∧
    (serving memory split (streamOf (msg::rest)) receives).reads = receives)
include unfinished enough reached

omit served in
theorem serving_given (extra : Bytes)
    (came : (streamOf rest).take
      (finished + min (split receives + 1) msg.body.length - msg.body.length) = extra)
    (memory : Memory) :
    ∃ requestHeader content calls rounds, content.length = msg.body.length ∧
      content.getLast? = some (memory.fresh 1 (msg.body.length-1)) ∧
      serving memory split (streamOf (msg::rest)) (receives+1) =
        let after := given msg.header (overlay content 0 (msg.body.drop finished ++ extra))
          requestHeader calls
        .behind ((streamOf rest).drop extra.length) (receives+1)
          (if extra = [] then (after,.handleFinish)
          else after.work memory (.block content) (rounds+1) (msg.body.length-finished)
            (bytesAt (memory.given 1) (msg.body.length-finished) extra.length)) := by
  obtain ⟨filling,coming,reads⟩ := reached memory
  rw [serving_succ]
  have completed := filling.complete extra split msg.sized unfinished (by rw [reads]; exact enough) coming
    (by rw [reads]; exact came)
  rwa [reads] at completed

omit served in
theorem serving_given_first (memory : Memory) (extra : Bytes)
    (came : (streamOf rest).take
      (finished + min (split receives + 1) msg.body.length - msg.body.length) = extra) :
    ∃ content, content.length = msg.body.length ∧
      content.getLast? = some (memory.fresh 1 (msg.body.length-1)) ∧
      [(msg.header,overlay content 0 (msg.body.drop finished ++ extra))] <+:
        (serving memory split (streamOf (msg::rest)) (receives+1)).handler.messages := by
  obtain ⟨requestHeader,content,calls,rounds,length,last,state⟩ :=
    serving_given unfinished enough reached extra came memory
  refine ⟨content,length,last,?_⟩
  rw [state]
  split_ifs
  · exact prefix_rfl
  · exact work_messages memory (.block content) (rounds+1) (given msg.header _ requestHeader calls) _ _

theorem served_full (extra : Bytes)
    (came : (streamOf rest).take
      (finished + min (split receives + 1) msg.body.length - msg.body.length) = extra) :
    (msg.body.drop finished ++ extra).length = msg.body.length := by
  have bound : (msg.body.drop finished ++ extra).length ≤ msg.body.length := by
    rw [length_append,length_drop,← came,length_take]
    omega
  by_contra other
  refine served_written served (receives+1) (fun memory => ?_)
  obtain ⟨content,length,last,first⟩ := serving_given_first unfinished enough reached memory extra came
  exact ⟨_,first,by rw [overlay_getLast (by omega),last]⟩

theorem served_next (memory : Memory) {second : Message} {others : List Message}
    (next : rest = second::others) (extra : Bytes)
    (came : (streamOf rest).take
      (finished + min (split receives + 1) msg.body.length - msg.body.length) = extra)
    (many : 8 ≤ extra.length)
    (empty : commonHeader.bodySize (bytesAt (memory.given 1) (msg.body.length-finished) 8) = 0) :
    bytesAt (memory.given 1) (msg.body.length-finished) 8 = second.header := by
  obtain ⟨requestHeader,content,calls,rounds,-,-,state⟩ :=
    serving_given unfinished enough reached extra came memory
  have some : extra ≠ [] := length_pos_iff.mp (by omega)
  have bytes : bytesAt (memory.given 1) (msg.body.length-finished) extra.length =
      bytesAt (memory.given 1) (msg.body.length-finished) 8 ++
        bytesAt (memory.given 1) (msg.body.length-finished+8) (extra.length-8) := by
    rw [← bytesAt_add]
    congr 1
    omega
  simp only [if_neg some,bytes] at state
  have got := given_header memory (.block content)
    (overlay content 0 (msg.body.drop finished ++ extra)) requestHeader
    calls rounds (msg.body.length-finished) msg.whole (bytesAt_length (memory.given 1) _ 8) empty
    (bytesAt (memory.given 1) (msg.body.length-finished+8) (extra.length-8))
  have seen := ((served memory).1 (receives+1)).2
  rw [state] at seen
  obtain ⟨later,shape⟩ := List.IsPrefix.trans got seen
  simp only [next,map_cons,cons_append,cons.injEq,Prod.mk.injEq] at shape
  exact shape.2.1.1

theorem served_start : finished = 0 := by
  generalize came : (streamOf rest).take
    (finished + min (split receives + 1) msg.body.length - msg.body.length) =
    extra
  have full := served_full served unfinished enough reached extra came
  rw [length_append,length_drop] at full
  have length : extra.length = finished := by omega
  by_contra some
  have nonempty : extra ≠ [] := length_pos_iff.mp (by omega)
  have more : rest ≠ [] := by
    rintro rfl
    exact nonempty (by simpa [streamOf] using came.symm)
  by_cases part : finished < 8
  · obtain ⟨requestHeader,content,calls,rounds,-,-,state⟩ :=
      serving_given unfinished enough reached extra came
      ⟨fun _ _ => 0,fun _ _ => 0⟩
    simp only [if_neg nonempty] at state
    have few : (bytesAt (fun _ => 0) (msg.body.length-finished) extra.length).length < 8 := by
      rw [bytesAt_length,length]
      exact part
    have left := (served _).not_stuck (.inr (by rw [state]; exact given_short _ _ _ _ _ _ _ few))
    rw [state] at left
    have gone := drop_eq_nil_iff.mp left
    have long := streamOf_length more
    omega
  · obtain ⟨second,others,next⟩ := exists_cons_of_ne_nil more
    -- the block now holds another header of an empty msg there
    have header : bytesAt (fun i => if i =
      msg.body.length - finished + 4 then second.header.getD 4 0 + 1 else 0)
        (msg.body.length-finished) 8 = [0,0,0,0,second.header.getD 4 0 + 1,0,0,0] := by
      simp [bytesAt,range_succ]
    have same := served_next served unfinished enough reached ⟨fun _ _ => 0,fun _ i =>
      if i = msg.body.length - finished + 4 then second.header.getD 4 0 + 1 else 0⟩ next extra came (by omega)
      (by rw [header]; rfl)
    rw [header] at same
    exact succ_ne _ (congrArg (fun header => header.getD 4 0) same)

end

theorem served_framed (served : ∀ memory, Served memory split messages) : Framed split messages := by
  cases messages with
  | nil => exact .inl rfl
  | cons msg rest =>
    by_cases empty : msg.body = []
    · obtain rfl := (served ⟨fun _ _ => 0,fun _ _ => 0⟩).alone_of_empty empty
      exact .inr ⟨msg,rfl,.inl empty⟩
    · obtain ⟨receives,short,enough⟩ := exists_completing split
      have few := served_few served empty short enough
      have begun := serving_filling_first (streamOf rest) msg.whole msg.sized empty short enough
      rw [← streamOf_cons] at begun
      obtain ⟨last,finished,unfinished,place,completes,reached⟩ := exists_completing_body msg.sized few
        (fun memory => begun memory few)
      obtain rfl := served_start served unfinished completes reached
      obtain ⟨rfl,exactly⟩ : last = receives+1 ∧ taken split (receives+1) = 8 := by
        rcases place with ⟨first,none⟩ | none
        · exact ⟨first,by omega⟩
        · exact absurd none (Nat.not_lt_zero _)
      have came : (streamOf rest).take
          (0 + min (split (receives+1) + 1) msg.body.length - msg.body.length) = [] := by
        rw [Nat.zero_add,Nat.sub_eq_zero_of_le (Nat.min_le_right _ _),take_zero]
      obtain ⟨requestHeader,content,calls,rounds,-,-,state⟩ :=
        serving_given unfinished completes reached [] came
        ⟨fun _ _ => 0,fun _ _ => 0⟩
      have left := (served _).not_stuck (.inr (by rw [state]; rfl))
      rw [state] at left
      have alone : rest = [] := by
        by_contra more
        have long := streamOf_length more
        rw [show streamOf rest = [] from left] at long
        exact absurd long (by decide)
      exact .inr ⟨msg,by rw [alone],.inr ⟨receives+1,exactly,by omega⟩⟩

theorem serving_stays {stream : Bytes} (ended : (serving memory split stream receives).stream = [])
    (later : Nat) :
    serving memory split stream (receives+later) = serving memory split stream receives := by
  induction later with
  | zero => rfl
  | succ later ih =>
    rw [← Nat.add_assoc,serving_succ,ih,doHandleEpollRead]
    simp [ended]

theorem served_of_last (last : Nat)
    (before : ∀ receives < last, (serving memory split (streamOf messages) receives).closed = false ∧
      (serving memory split (streamOf messages) receives).handler.messages = [])
    (open' : (serving memory split (streamOf messages) last).closed = false)
    (ended : (serving memory split (streamOf messages) last).stream = [])
    (got : (serving memory split (streamOf messages) last).handler.messages =
      messages.map (fun msg => (msg.header,msg.body))) : Served memory split messages := by
  refine ⟨fun receives => ?_,last,got⟩
  by_cases early : receives < last
  · obtain ⟨closed,none⟩ := before receives early
    exact ⟨closed,by rw [none]; exact nil_prefix⟩
  · obtain ⟨later,rfl⟩ := Nat.exists_eq_add_of_le (Nat.not_lt.mp early)
    rw [serving_stays ended]
    exact ⟨open',got ▸ prefix_rfl⟩

theorem taken_mono (split : Nat → Nat) {first second : Nat} (le : first ≤ second) :
    taken split first ≤ taken split second :=
  monotone_nat_of_le_succ (fun receives => (taken_lt split receives).le) le

theorem serving_before (short : taken split receives < 8) (memory : Memory)
    (msg : Message) {earlier : Nat} (early : earlier < receives+1) :
    (serving memory split (streamOf [msg]) earlier).closed = false ∧
      (serving memory split (streamOf [msg]) earlier).handler.messages = [] := by
  have within := (taken_mono split (Nat.lt_succ_iff.mp early)).trans_lt short
  obtain ⟨heading,-,-⟩ := serving_heading memory split msg.header (msg.body ++ streamOf []) msg.whole earlier
    within
  rw [streamOf_cons]
  exact ⟨heading.closed,heading.messages⟩

theorem served_empty (memory : Memory) (split : Nat → Nat) (empty : msg.body = []) :
    Served memory split [msg] := by
  obtain ⟨receives,short,enough⟩ := exists_completing split
  have zero : commonHeader.bodySize msg.header = 0 := by rw [msg.sized,empty,length_nil]
  have state := serving_headed memory (msg.body ++ streamOf []) [] msg.whole short enough
    (by rw [empty]; exact take_nil)
  rw [← streamOf_cons,headed,if_pos zero] at state
  refine served_of_last (receives+1) (fun _ early => serving_before short memory msg early) ?_ ?_ ?_
  · rw [state]
    rfl
  · rw [state,empty]
    rfl
  · rw [state]
    simp [Connection.behind,empty]

theorem served_loaded (memory : Memory) (loaded : msg.body ≠ [])
    (exactly : taken split (receives+1) = 8) (fits : msg.body.length ≤ split (receives+1) + 1) :
    Served memory split [msg] := by
  have short := (taken_lt split receives).trans_eq exactly
  have pos := length_pos_iff.mpr loaded
  have begun := fun memory =>
    serving_filling_first (streamOf []) msg.whole msg.sized loaded short exactly.ge memory
    (by rw [exactly]; exact pos)
  rw [← streamOf_cons,exactly] at begun
  obtain ⟨requestHeader,content,calls,rounds,length,-,state⟩ := serving_given pos (by omega) begun [] take_nil
    memory
  refine served_of_last (receives+2) (fun earlier early => ?_) ?_ ?_ ?_
  · rcases Nat.lt_succ_iff_lt_or_eq.mp early with early | rfl
    · exact serving_before short memory msg early
    · obtain ⟨⟨closed,_,_,_,handler,-⟩,-⟩ := begun memory
      exact ⟨closed,by rw [handler]⟩
  · rw [state]
    rfl
  · rw [state]
    rfl
  · rw [state]
    simp [Connection.behind,given,overlay,length]

theorem framed_served (framed : Framed split messages) (memory : Memory) : Served memory split messages := by
  rcases framed with rfl | ⟨msg,rfl,body⟩
  · exact served_of_last 0 (fun _ early => absurd early (Nat.not_lt_zero _)) rfl rfl rfl
  · by_cases empty : msg.body = []
    · exact served_empty memory split empty
    · obtain ⟨receives,exactly,fits⟩ := body.resolve_left empty
      obtain ⟨before,rfl⟩ : ∃ before, receives = before+1 := by
        refine Nat.exists_eq_succ_of_ne_zero ?_
        rintro rfl
        cases exactly
      exact served_loaded memory empty exactly fits

/-- Every message reaches the observer, whatever memory holds, exactly when there is at most one,
and its header and its body are taken by receives of their own, the body by a single one. -/
theorem served_iff_framed (split : Nat → Nat) (messages : List Message) :
    (∀ memory, Served memory split messages) ↔ Framed split messages :=
  ⟨served_framed,framed_served⟩

theorem second_message_closes :
    let messages : List Message := [⟨[0,0,0,0,1,0,0,0],[],rfl,rfl⟩,⟨[0,0,0,0,2,0,0,0],[],rfl,rfl⟩]
    let connection := serving ⟨fun _ _ => 0,fun _ _ => 0⟩ (fun _ => 7) (streamOf messages) 2
    connection.closed = true ∧ connection.handler.messages = [([0,0,0,0,1,0,0,0],[])] := by
  decide

end Mooon.Server

import Mooon.Net.RecvMachine

/-! The machine follows the sequential decoding: what it has delivered are the messages of the
stream so far, and its header and finished size stand for the unfinished one. -/
namespace Mooon.Net
open List

section
variable (format : Format)

theorem decodeUpTo_enough (first second : Nat) (stream : Bytes) (one : stream.length ≤ first)
    (two : stream.length ≤ second) : decodeUpTo format first stream = decodeUpTo format second stream := by
  have pos := format.positive
  induction first generalizing second stream with
  | zero =>
    have empty : stream.length < format.headerSize := by omega
    cases second with
    | zero => rfl
    | succ second => rw [decodeUpTo,decodeUpTo,if_pos empty]
  | succ first ih =>
    cases second with
    | zero =>
      have empty : stream.length < format.headerSize := by omega
      rw [decodeUpTo,decodeUpTo,if_pos empty]
    | succ second =>
      unfold decodeUpTo
      split_ifs with whole
      · rfl
      · have rest : ((stream.drop format.headerSize).drop
            (format.bodySize (stream.take format.headerSize))).length < stream.length := by
          simp only [length_drop]
          omega
        dsimp only
        rw [ih second _ (by omega) (by omega)]

theorem decode_short (stream : Bytes) (short : stream.length < format.headerSize) :
    decode format stream = ([],stream) := by
  unfold decode
  cases stream with
  | nil => rfl
  | cons byte rest =>
    exact if_pos short

theorem decode_header {header rest : Bytes} (length : header.length = format.headerSize) :
    decode format (header++rest) =
      ((header,rest.take (format.bodySize header))::(decode format (rest.drop (format.bodySize header))).1,
        (decode format (rest.drop (format.bodySize header))).2) := by
  have pos := format.positive
  obtain ⟨rounds,size⟩ : ∃ rounds, (header++rest).length = rounds+1 := by
    refine Nat.exists_eq_succ_of_ne_zero ?_
    rw [length_append]
    omega
  have long : ¬ (header++rest).length < format.headerSize := by
    rw [length_append]
    omega
  have enough : (rest.drop (format.bodySize header)).length ≤ rounds := by
    rw [length_append] at size
    rw [length_drop]
    omega
  unfold decode
  rw [size,decodeUpTo,if_neg long,take_left' length,drop_left' length]
  dsimp only
  rw [decodeUpTo_enough format rounds _ _ enough le_rfl]

theorem decode_body (header body : Bytes) (length : header.length = format.headerSize)
    (fits : body.length ≤ format.bodySize header) : decode format (header++body) = ([(header,body)],[]) := by
  rw [decode_header format length,take_of_length_le fits,drop_of_length_le fits,
    decode_short format [] format.positive]

def Decoded (stream : Bytes) (messages : List (Bytes × Bytes)) (unfinished : Bytes) : Prop :=
  ∀ more, decode format (stream++more) =
    (messages ++ (decode format (unfinished++more)).1,(decode format (unfinished++more)).2)

structure Tracks (machine : Machine) (stream : Bytes) (messages : List (Bytes × Bytes))
    (unfinished : Bytes) : Prop where
  decoded : Decoded format stream messages unfinished
  delivered : deliveries machine.calls = some (messages ++ (decode format unfinished).1)
  placed :
    match machine.state with
    | .header => machine.header.take machine.finishedSize = unfinished
    | .body => ∃ body, unfinished = machine.header ++ body ∧ body.length = machine.finishedSize

variable {format} {machine after : Machine} {stream unfinished : Bytes} {messages : List (Bytes × Bytes)}

theorem Decoded.append (decoded : Decoded format stream messages unfinished) (data : Bytes) :
    Decoded format (stream++data) messages (unfinished++data) := by
  intro more
  rw [append_assoc,append_assoc]
  exact decoded (data++more)

theorem Decoded.complete {header body : Bytes} (decoded : Decoded format stream messages (header++body))
    (length : header.length = format.headerSize) (whole : body.length = format.bodySize header) :
    Decoded format stream (messages ++ [(header,body)]) [] := by
  intro more
  rw [decoded more,append_assoc header,decode_header format length,← whole]
  simp

theorem deliveries_append (calls : List Call) (call : Call) :
    deliveries (calls ++ [call]) = deliver (deliveries calls) call := by
  rw [deliveries,foldl_append]
  rfl

theorem deliver_onMessage {header body data : Bytes} :
    deliver (some (messages ++ [(header,body)])) (.onMessage header body.length data) =
      some (messages ++ [(header,body++data)]) := by
  simp [deliver]

/-- Before the buffer is handled, no header of an empty message is finished in part, or the
buffer does not complete one. -/
def Clean (format : Format) (machine : Machine) (buffer : Bytes) : Prop :=
  machine.state = .header → machine.finishedSize = 0 ∨
    machine.finishedSize + buffer.length < format.headerSize ∨
    0 < format.bodySize ((machine.header.take machine.finishedSize ++ buffer).take format.headerSize)

section
variable (tracks : Tracks format machine stream messages unfinished)
include tracks

theorem Tracks.pending (valid : machine.Valid format)
    (state : machine.state = .header) : machine.header.take machine.finishedSize = unfinished ∧
      unfinished.length = machine.finishedSize ∧ decode format unfinished = ([],unfinished) := by
  obtain ⟨length,finished⟩ := valid
  have placed := tracks.placed
  rw [state] at placed finished
  dsimp only at placed finished
  have size : unfinished.length = machine.finishedSize := by
    rw [← placed,length_take]
    omega
  exact ⟨placed,size,decode_short format unfinished (by omega)⟩

theorem Tracks.open_body (valid : machine.Valid format)
    (state : machine.state = .body) : ∃ body, unfinished = machine.header ++ body ∧
      body.length = machine.finishedSize ∧
        deliveries machine.calls = some (messages ++ [(machine.header,body)]) := by
  obtain ⟨length,finished⟩ := valid
  obtain ⟨_,delivered,placed⟩ := tracks
  rw [state] at placed finished
  obtain ⟨body,rfl,size⟩ := placed
  dsimp only at finished
  rw [decode_body format _ body length (by omega)] at delivered
  exact ⟨body,rfl,size,delivered⟩

end

section
variable {data : Bytes} (tracks : Tracks format machine stream messages unfinished)
  (valid : machine.Valid format)
include tracks valid

section
variable (state : machine.state = .header)
include state

theorem Tracks.headerPart
    (short : machine.finishedSize + data.length < format.headerSize) :
    Tracks format {machine.copy data with finishedSize := machine.finishedSize + data.length}
      (stream++data) messages
      (unfinished++data) := by
  obtain ⟨header,size,empty⟩ := tracks.pending valid state
  have delivered := tracks.delivered
  rw [empty] at delivered
  refine ⟨tracks.decoded.append data,?_,?_⟩
  · rw [decode_short format (unfinished++data) (by rw [length_append]; omega)]
    exact delivered
  · have front := (copy_header data valid.length short.le).2
    rw [header] at front
    simpa only [Machine.copy,state] using front

section
variable (whole : machine.finishedSize + data.length = format.headerSize)
include whole

theorem Tracks.header :
    Decoded format (stream++data) messages ((machine.copy data).header ++ []) ∧
      deliveries (machine.calls ++ [.onHeader (machine.copy data).header]) =
        some (messages ++ [((machine.copy data).header,[])]) := by
  obtain ⟨header,_,empty⟩ := tracks.pending valid state
  have delivered := tracks.delivered
  rw [empty,append_nil] at delivered
  constructor
  · rw [copy_whole data valid.length whole,header,append_nil]
    exact tracks.decoded.append data
  · rw [deliveries_append,delivered]
    rfl

theorem Tracks.headerBody :
    Tracks format (((machine.copy data).call (.onHeader (machine.copy data).header)).setNextState
      .body) (stream++data)
      messages ((machine.copy data).header ++ []) := by
  obtain ⟨decoded,delivered⟩ := tracks.header valid state whole
  have length := (copy_header data valid.length whole.le).1
  refine ⟨decoded,?_,[],rfl,rfl⟩
  rw [decode_body format _ [] length (Nat.zero_le _)]
  exact delivered

theorem Tracks.headerEmpty
    (empty : ¬ 0 < format.bodySize (machine.copy data).header) (fresh : machine.finishedSize = 0) :
    Tracks format (((machine.copy data).call (.onHeader (machine.copy data).header)).call
      (.onMessage (machine.copy data).header 0 [])) (stream++data)
      (messages ++ [((machine.copy data).header,[])]) [] := by
  obtain ⟨decoded,delivered⟩ := tracks.header valid state whole
  have length := (copy_header data valid.length whole.le).1
  have none : ([] : Bytes).length = format.bodySize (machine.copy data).header := by
    rw [length_nil]
    omega
  refine ⟨decoded.complete length none,?_,?_⟩
  · rw [decode_short format [] format.positive,append_nil]
    refine (deliveries_append _ _).trans ?_
    dsimp only [Machine.call,Machine.copy] at delivered ⊢
    rw [delivered]
    exact deliver_onMessage
  · simp [Machine.call,Machine.copy,state,fresh]

end

end

theorem Tracks.bodyPart (state : machine.state = .body)
    (short : machine.finishedSize + data.length < format.bodySize machine.header) :
    Tracks format {machine.call (.onMessage machine.header machine.finishedSize data) with
      finishedSize := machine.finishedSize + data.length} (stream++data) messages (unfinished++data) := by
  obtain ⟨body,rfl,size,delivered⟩ := tracks.open_body valid state
  have grown : (body++data).length = machine.finishedSize + data.length := by rw [length_append,size]
  refine ⟨tracks.decoded.append data,?_,?_⟩
  · rw [append_assoc,decode_body format _ _ valid.length (by omega)]
    dsimp only [Machine.call]
    rw [deliveries_append,delivered,← size,deliver_onMessage]
  · simp only [Machine.call,state]
    exact ⟨body++data,append_assoc _ _ _,grown⟩

theorem Tracks.bodyEnd (state : machine.state = .body)
    (whole : machine.finishedSize + data.length = format.bodySize machine.header) :
    ∃ messages, Tracks format
      ((machine.call (.onMessage machine.header machine.finishedSize data)).setNextState .header)
      (stream++data) messages [] := by
  obtain ⟨body,rfl,size,delivered⟩ := tracks.open_body valid state
  have grown : (body++data).length = format.bodySize machine.header := by rw [length_append,size,whole]
  have decoded := tracks.decoded.append data
  rw [append_assoc] at decoded
  refine ⟨_,decoded.complete valid.length grown,?_,rfl⟩
  rw [decode_short format [] format.positive,append_nil]
  dsimp only [Machine.call,Machine.setNextState]
  rw [deliveries_append,delivered,← size,deliver_onMessage]

end

theorem Turn.tracks {data rest : Bytes} {complete : Bool} (turn : Turn format machine data complete after)
    (valid : machine.Valid format) (clean : Clean format machine (data++rest))
    (tracks : Tracks format machine stream messages unfinished) :
    (∃ messages unfinished, Tracks format after (stream++data) messages unfinished) ∧
      (complete = true → after.state = .header → after.finishedSize = 0) := by
  cases turn with
  | headerPart state short =>
    exact ⟨⟨_,_,tracks.headerPart valid state short⟩,fun whole => absurd whole Bool.false_ne_true⟩
  | headerBody state whole body =>
    exact ⟨⟨_,_,tracks.headerBody valid state whole⟩,fun _ other => absurd other RecvState.noConfusion⟩
  | headerEmpty state whole empty =>
    have fresh : machine.finishedSize = 0 := by
      rcases clean state with fresh | short | body
      · exact fresh
      · rw [length_append] at short
        omega
      · have header := copy_whole data valid.length whole
        have size := (copy_header data valid.length whole.le).1
        rw [← append_assoc,← header,take_left' size] at body
        exact absurd body empty
    exact ⟨⟨_,_,tracks.headerEmpty valid state whole empty fresh⟩,fun _ _ => fresh⟩
  | bodyPart state short =>
    exact ⟨⟨_,_,tracks.bodyPart valid state short⟩,fun whole => absurd whole Bool.false_ne_true⟩
  | bodyEnd state whole =>
    obtain ⟨messages,next⟩ := tracks.bodyEnd valid state whole
    exact ⟨⟨messages,[],next⟩,fun _ _ => rfl⟩

theorem Turns.tracks {buf : Bytes} (turns : Turns format machine buf after) (valid : machine.Valid format)
    (clean : Clean format machine buf) (tracks : Tracks format machine stream messages unfinished) :
    ∃ messages unfinished, Tracks format after (stream++buf) messages unfinished := by
  induction turns generalizing stream messages unfinished with
  | @last machine after data whole turn =>
    rw [← append_nil data] at clean
    exact (turn.tracks valid clean tracks).1
  | @more machine next after data rest turn some turns ih =>
    obtain ⟨⟨messages,unfinished,tracks⟩,fresh⟩ := turn.tracks valid clean tracks
    rw [← append_assoc]
    exact ih (turn.valid valid) (fun state => Or.inl (fresh rfl state)) tracks

end

end Mooon.Net

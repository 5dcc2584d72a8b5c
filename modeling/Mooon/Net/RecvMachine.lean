import Mooon.Run
import Mathlib.Algebra.Order.Group.Nat

/-! `CRecvMachine`, which cuts a stream of chunks into messages, against the sequential
decoding of the whole stream. The header type is given by its size in bytes and by the
size field as a function of these bytes. The processor is the function that answers its
last call from all calls so far. -/
namespace Mooon.Net
open List Bool

abbrev Bytes := List UInt8

structure Format where
  headerSize : Nat
  bodySize : Bytes → Nat
  positive : 0 < headerSize

inductive RecvState where
  | header
  | body
deriving DecidableEq

inductive HandleResult where
  | handleError
  | handleFinish
  | handleContinue
deriving DecidableEq

inductive Call where
  | onHeader (header : Bytes)
  | onMessage (header : Bytes) (finishedSize : Nat) (data : Bytes)
deriving DecidableEq

structure Machine where
  header : Bytes
  state : RecvState
  finishedSize : Nat
  calls : List Call

def Machine.setNextState (machine : Machine) (state : RecvState) : Machine :=
  {machine with state := state, finishedSize := 0}

/-- A machine after `reset`; the header is memory that nothing has written yet. -/
def Machine.reset (memory : Bytes) : Machine := ⟨memory,.header,0,[]⟩

def Machine.copy (machine : Machine) (data : Bytes) : Machine :=
  {machine with
    header := machine.header.take machine.finishedSize ++ data ++
      machine.header.drop (machine.finishedSize + data.length)}

def Machine.call (machine : Machine) (call : Call) : Machine :=
  {machine with calls := machine.calls ++ [call]}

section
variable (format : Format) (accept : List Call → Bool)

def resultFor (rest : Bytes) : HandleResult := if rest = [] then .handleFinish else .handleContinue

def handleHeader (machine : Machine) (buffer : Bytes) : Machine × HandleResult × Bytes :=
  if machine.finishedSize + buffer.length < format.headerSize then
    ({machine.copy buffer with finishedSize := machine.finishedSize + buffer.length},.handleFinish,[])
  else
    let needSize := format.headerSize - machine.finishedSize
    let machine := machine.copy (buffer.take needSize)
    let machine := machine.call (.onHeader machine.header)
    let rest := buffer.drop needSize
    if accept machine.calls = false then (machine,.handleError,rest)
    else if 0 < format.bodySize machine.header then (machine.setNextState .body,resultFor rest,rest)
    else
      -- the state stays as it is, and so does `_finished_size`
      let machine := machine.call (.onMessage machine.header 0 [])
      if accept machine.calls = false then (machine,.handleError,rest)
      else (machine,resultFor rest,rest)

def handleBody (machine : Machine) (buffer : Bytes) : Machine × HandleResult × Bytes :=
  if machine.finishedSize + buffer.length < format.bodySize machine.header then
    let called := machine.call (.onMessage machine.header machine.finishedSize buffer)
    if accept called.calls = false then (called,.handleError,[])
    else ({called with finishedSize := machine.finishedSize + buffer.length},.handleFinish,[])
  else
    let needSize := format.bodySize machine.header - machine.finishedSize
    let called := machine.call (.onMessage machine.header machine.finishedSize (buffer.take needSize))
    let rest := buffer.drop needSize
    if accept called.calls = false then (called,.handleError,rest)
    else (called.setNextState .header,resultFor rest,rest)

def handleState (machine : Machine) (buffer : Bytes) : Machine × HandleResult × Bytes :=
  match machine.state with
  | .header => handleHeader format accept machine buffer
  | .body => handleBody format accept machine buffer

def workLoop : Nat → Machine → Bytes → Machine × HandleResult
  | 0, machine, _ => (machine,.handleContinue)
  | rounds+1, machine, buffer =>
    match handleState format accept machine buffer with
    | (machine,.handleContinue,rest) => workLoop rounds machine rest
    | (machine,.handleError,_) => (machine,.handleError)
    | (machine,.handleFinish,_) => (machine,.handleFinish)

def work (machine : Machine) (buffer : Bytes) : Machine × HandleResult :=
  match workLoop format accept (buffer.length+1) machine buffer with
  | (machine,.handleError) => (machine.setNextState .header,.handleError)
  | (machine,result) => (machine,result)

end

section
variable (format : Format)

/-- The messages of a stream, each with the bytes of its body that the stream has, and the
bytes of an incomplete header at its end. -/
def decodeUpTo : Nat → Bytes → List (Bytes × Bytes) × Bytes
  | 0, stream => ([],stream)
  | rounds+1, stream =>
    if stream.length < format.headerSize then ([],stream)
    else
      let header := stream.take format.headerSize
      let rest := stream.drop format.headerSize
      let (messages,pending) := decodeUpTo rounds (rest.drop (format.bodySize header))
      ((header,rest.take (format.bodySize header))::messages,pending)

def decode (stream : Bytes) : List (Bytes × Bytes) × Bytes := decodeUpTo format stream.length stream

/-- The messages that the processor has been given: every body must come piece by piece
after its header. -/
def deliver : Option (List (Bytes × Bytes)) → Call → Option (List (Bytes × Bytes))
  | none, _ => none
  | some messages, .onHeader header => some (messages ++ [(header,[])])
  | some messages, .onMessage header finishedSize data =>
    match messages.getLast? with
    | none => none
    | some (last,body) =>
      if last = header ∧ body.length = finishedSize then
        some (messages.dropLast ++ [(header,body++data)]) else none

def deliveries (calls : List Call) : Option (List (Bytes × Bytes)) := calls.foldl deliver (some [])

def receive (memory : Bytes) (chunks : List Bytes) : Machine :=
  Run.final (work format (fun _ => true)) (.reset memory) chunks

def Independent (memory : Bytes) (chunks : List Bytes) : Prop :=
  deliveries (receive format memory chunks).calls = some (decode format chunks.flatten).1

/-- The chunk does not complete a header of an empty message that earlier chunks have begun. -/
def WholeHeader (stream chunk : Bytes) : Prop :=
  (decode format stream).2 = [] ∨ ((decode format stream).2 ++ chunk).length < format.headerSize ∨
    0 < format.bodySize (((decode format stream).2 ++ chunk).take format.headerSize)

def WholeHeaders (chunks : List Bytes) : Prop :=
  ∀ before chunk after, chunks = before ++ chunk::after → WholeHeader format before.flatten chunk

end

section
variable (format : Format)

structure Machine.Valid (machine : Machine) : Prop where
  length : machine.header.length = format.headerSize
  finished : machine.finishedSize <
    match machine.state with
    | .header => format.headerSize
    | .body => format.bodySize machine.header

/-- A round of the loop that takes `data` from the buffer; the flag tells whether it completes
a header or a body, and only then the buffer may hold more. -/
inductive Turn (machine : Machine) (data : Bytes) : Bool → Machine → Prop where
  | headerPart (state : machine.state = .header) (short : machine.finishedSize + data.length <
    format.headerSize) :
    Turn machine data false {machine.copy data with finishedSize := machine.finishedSize + data.length}
  | headerBody (state : machine.state = .header) (whole : machine.finishedSize + data.length =
    format.headerSize)
    (body : 0 < format.bodySize (machine.copy data).header) :
    Turn machine data true (((machine.copy data).call
      (.onHeader (machine.copy data).header)).setNextState .body)
  | headerEmpty (state : machine.state = .header) (whole : machine.finishedSize + data.length =
    format.headerSize)
    (empty : ¬ 0 < format.bodySize (machine.copy data).header) :
    Turn machine data true (((machine.copy data).call (.onHeader (machine.copy data).header)).call
      (.onMessage (machine.copy data).header 0 []))
  | bodyPart (state : machine.state = .body)
    (short : machine.finishedSize + data.length < format.bodySize machine.header) :
    Turn machine data false {machine.call (.onMessage machine.header machine.finishedSize data) with
      finishedSize := machine.finishedSize + data.length}
  | bodyEnd (state : machine.state = .body)
    (whole : machine.finishedSize + data.length = format.bodySize machine.header) :
    Turn machine data true ((machine.call
      (.onMessage machine.header machine.finishedSize data)).setNextState .header)

inductive Turns : Machine → Bytes → Machine → Prop where
  | last {machine after : Machine} {data : Bytes} {complete : Bool}
    (turn : Turn format machine data complete after) : Turns machine data after
  | more {machine next after : Machine} {data rest : Bytes} (turn : Turn format machine data true next)
    (some : rest ≠ []) (turns : Turns next rest after) : Turns machine (data++rest) after

variable {format} {machine after : Machine} {data buf : Bytes}

theorem copy_header (data : Bytes) (length : machine.header.length = format.headerSize)
    (fits : machine.finishedSize + data.length ≤ format.headerSize) :
    (machine.copy data).header.length = format.headerSize ∧
      (machine.copy data).header.take (machine.finishedSize + data.length) =
        machine.header.take machine.finishedSize ++ data := by
  have taken : (machine.header.take machine.finishedSize).length = machine.finishedSize := by
    rw [length_take]
    omega
  constructor
  · simp only [Machine.copy,length_append,length_drop]
    omega
  · have front : (machine.header.take machine.finishedSize ++ data).length =
        machine.finishedSize + data.length := by
      rw [length_append,taken]
    exact take_left' front

theorem copy_whole (data : Bytes) (length : machine.header.length = format.headerSize)
    (whole : machine.finishedSize + data.length = format.headerSize) :
    (machine.copy data).header = machine.header.take machine.finishedSize ++ data := by
  obtain ⟨size,front⟩ := copy_header data length whole.le
  rwa [whole,← size,take_length] at front

variable {complete : Bool}

theorem Turn.valid (turn : Turn format machine data complete after)
    (valid : machine.Valid format) : after.Valid format := by
  obtain ⟨length,finished⟩ := valid
  have pos := format.positive
  cases turn with
  | headerPart state short =>
    refine ⟨(copy_header data length short.le).1,?_⟩
    simpa only [Machine.copy,state] using short
  | headerBody state whole body => exact ⟨(copy_header data length whole.le).1,body⟩
  | headerEmpty state whole empty =>
    refine ⟨(copy_header data length whole.le).1,?_⟩
    simpa only [Machine.copy,Machine.call,state] using finished
  | bodyPart state short =>
    refine ⟨length,?_⟩
    simpa only [Machine.call,state] using short
  | bodyEnd state whole => exact ⟨length,pos⟩

theorem Turns.valid (turns : Turns format machine buf after) (valid : machine.Valid format) :
    after.Valid format := by
  induction turns with
  | last turn => exact turn.valid valid
  | more turn _ _ ih => exact ih (turn.valid valid)

theorem Turn.length_pos (turn : Turn format machine data true after) (valid : machine.Valid format) :
    0 < data.length := by
  have finished := valid.finished
  cases turn with
  | headerBody state whole _ | headerEmpty state whole _ | bodyEnd state whole =>
    rw [state] at finished
    dsimp only at finished
    omega

theorem whole_piece {finished size : Nat} (rest : Bytes) (whole : finished + data.length = size) :
    size - finished = data.length ∧ ¬ finished + (data++rest).length < size := by
  rw [length_append]
  omega

theorem Turn.handleState (turn : Turn format machine data complete after) (rest : Bytes)
    (ends : complete = true ∨ rest = []) :
    handleState format (fun _ => true) machine (data++rest) = (after,resultFor rest,rest) := by
  unfold Net.handleState
  cases turn with
  | headerPart state short =>
    obtain rfl := ends.resolve_left false_ne_true
    simp [state,handleHeader,short,resultFor]
  | headerBody state whole body =>
    obtain ⟨need,enough⟩ := whole_piece rest whole
    have body' : 0 < format.bodySize
        ((machine.copy data).call (.onHeader (machine.copy data).header)).header := body
    simp only [state,handleHeader,if_neg enough,need,take_left,drop_left,if_pos body',true_eq_false,
      if_false]
  | headerEmpty state whole empty =>
    obtain ⟨need,enough⟩ := whole_piece rest whole
    have empty' : ¬ 0 < format.bodySize
        ((machine.copy data).call (.onHeader (machine.copy data).header)).header := empty
    simp only [state,handleHeader,if_neg enough,need,take_left,drop_left,if_neg empty',true_eq_false,
      if_false]
    rfl
  | bodyPart state short =>
    obtain rfl : rest = [] := ends.resolve_left false_ne_true
    simp [state,handleBody,short,resultFor]
  | bodyEnd state whole =>
    obtain ⟨need,enough⟩ := whole_piece rest whole
    simp only [state,handleBody,if_neg enough,need,take_left,drop_left,true_eq_false,if_false]

theorem Turns.workLoop (turns : Turns format machine buf after) (valid : machine.Valid format) (rounds : Nat)
    (enough : buf.length < rounds) :
    workLoop format (fun _ => true) rounds machine buf = (after,.handleFinish) := by
  induction turns generalizing rounds with
  | last turn =>
    obtain ⟨rounds,rfl⟩ := Nat.exists_eq_succ_of_ne_zero (Nat.ne_zero_of_lt enough)
    have handled := turn.handleState [] (Or.inr rfl)
    rw [append_nil] at handled
    rw [Net.workLoop,handled]
    rfl
  | @more machine next after data rest turn some turns ih =>
    obtain ⟨rounds,rfl⟩ := Nat.exists_eq_succ_of_ne_zero (Nat.ne_zero_of_lt enough)
    have taken := turn.length_pos valid
    rw [length_append] at enough
    rw [Net.workLoop,turn.handleState rest (Or.inl rfl),resultFor,if_neg some]
    exact ih (turn.valid valid) rounds (by omega)

theorem Turns.work (turns : Turns format machine buf after) (valid : machine.Valid format) :
    work format (fun _ => true) machine buf = (after,.handleFinish) := by
  rw [Net.work,turns.workLoop valid _ (Nat.lt_succ_self _)]

theorem exists_turn (machine : Machine) (valid : machine.Valid format) (buf : Bytes) :
    ∃ data rest complete after, buf = data++rest ∧ Turn format machine data complete after ∧
      (complete = true ∨ rest = []) := by
  have finished := valid.finished
  cases state : machine.state with
  | header =>
    rw [state] at finished
    dsimp only at finished
    by_cases short : machine.finishedSize + buf.length < format.headerSize
    · exact ⟨buf,[],false,_,(append_nil _).symm,.headerPart state short,Or.inr rfl⟩
    · have whole : machine.finishedSize + (buf.take (format.headerSize - machine.finishedSize)).length =
          format.headerSize := by
        rw [length_take]
        omega
      by_cases body : 0 < format.bodySize
        (machine.copy (buf.take (format.headerSize - machine.finishedSize))).header
      · exact ⟨_,_,true,_,(take_append_drop _ _).symm,.headerBody state whole body,Or.inl rfl⟩
      · exact ⟨_,_,true,_,(take_append_drop _ _).symm,.headerEmpty state whole body,Or.inl rfl⟩
  | body =>
    rw [state] at finished
    dsimp only at finished
    by_cases short : machine.finishedSize + buf.length < format.bodySize machine.header
    · exact ⟨buf,[],false,_,(append_nil _).symm,.bodyPart state short,Or.inr rfl⟩
    · have whole : machine.finishedSize +
          (buf.take (format.bodySize machine.header - machine.finishedSize)).length =
            format.bodySize machine.header := by
        rw [length_take]
        omega
      exact ⟨_,_,true,_,(take_append_drop _ _).symm,.bodyEnd state whole,Or.inl rfl⟩

theorem exists_turns (machine : Machine) (valid : machine.Valid format) (buf : Bytes) :
    ∃ after, Turns format machine buf after := by
  induction total : buf.length using Nat.strongRecOn generalizing machine buf with
  | _ size ih =>
    obtain ⟨data,rest,complete,next,rfl,turn,ends⟩ := exists_turn machine valid buf
    by_cases some : rest = []
    · subst some
      rw [append_nil]
      exact ⟨next,.last turn⟩
    · obtain rfl := ends.resolve_right some
      have taken := turn.length_pos valid
      have smaller : rest.length < size := by
        rw [← total,length_append]
        omega
      obtain ⟨after,turns⟩ := ih rest.length smaller next (turn.valid valid) rest rfl
      exact ⟨after,.more turn some turns⟩

end

end Mooon.Net

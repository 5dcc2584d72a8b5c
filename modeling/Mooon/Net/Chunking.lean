import Mooon.Net.Decoding
import Mathlib.Algebra.GroupWithZero.Nat
import Mathlib.Data.List.Induction

/-! Chunkings of a stream. The bytes a machine accounts for are those it was given, except that
the first bytes of a split header of an empty message are counted again. -/
namespace Mooon.Net
open List

section
variable (format : Format)

def Call.weight : Call → Nat
  | .onHeader _ => format.headerSize
  | .onMessage _ _ data => data.length

def weight (calls : List Call) : Nat := (calls.map (Call.weight format)).sum

def Machine.accounted (machine : Machine) : Nat :=
  weight format machine.calls +
    match machine.state with
    | .header => machine.finishedSize
    | .body => 0

def total (messages : List (Bytes × Bytes)) : Nat :=
  (messages.map (fun message => format.headerSize + message.2.length)).sum

@[simp] theorem weight_append (calls : List Call) (call : Call) :
    weight format (calls ++ [call]) = weight format calls + call.weight format := by
  simp [weight]

theorem total_append (first second : List (Bytes × Bytes)) :
    total format (first++second) = total format first + total format second := by
  simp [total]

theorem deliver_total (messages after : List (Bytes × Bytes)) (call : Call)
    (delivered : deliver (some messages) call = some after) :
    total format after = total format messages + call.weight format := by
  cases call with
  | onHeader header =>
    cases delivered
    simp [total,Call.weight]
  | onMessage header finishedSize data =>
    unfold deliver at delivered
    cases last : messages.getLast? with
    | none => simp [last] at delivered
    | some msg =>
      obtain ⟨name,body⟩ := msg
      simp only [last] at delivered
      split at delivered
      · cases delivered
        have split := dropLast_append_getLast? (name,body) last
        rw [total_append,← congrArg (total format) split,total_append]
        simp only [total,map_cons,map_nil,sum_singleton,length_append,Call.weight]
        omega
      · cases delivered

theorem deliveries_total (calls : List Call) (messages : List (Bytes × Bytes))
    (delivered : deliveries calls = some messages) : total format messages = weight format calls := by
  induction calls using reverseRecOn generalizing messages with
  | nil =>
    cases delivered
    rfl
  | append_singleton calls call ih =>
    rw [deliveries_append] at delivered
    cases earlier : deliveries calls with
    | none =>
      rw [earlier] at delivered
      cases delivered
    | some before =>
      rw [earlier] at delivered
      rw [deliver_total format before messages call delivered,ih before earlier,weight_append]

theorem decodeUpTo_total (rounds : Nat) (stream : Bytes) :
    total format (decodeUpTo format rounds stream).1 ≤ stream.length := by
  induction rounds generalizing stream with
  | zero => exact Nat.zero_le _
  | succ rounds ih =>
    unfold decodeUpTo
    split_ifs with long
    · exact Nat.zero_le _
    · have rest := ih ((stream.drop format.headerSize).drop (format.bodySize (stream.take format.headerSize)))
      simp only [total,map_cons,sum_cons,length_take,length_drop] at rest ⊢
      omega

variable {format} {machine after : Machine} {data buf : Bytes}

theorem Turn.accounted {complete : Bool} (turn : Turn format machine data complete after) :
    machine.accounted format + data.length ≤ after.accounted format := by
  unfold Machine.accounted
  cases turn with
  | headerPart state short =>
    simp only [state,Machine.copy]
    omega
  | headerBody state whole body =>
    simp only [state,Machine.copy,Machine.call,Machine.setNextState,weight_append,Call.weight]
    omega
  | headerEmpty state whole empty =>
    simp only [Machine.copy,Machine.call,weight_append,Call.weight]
    omega
  | bodyPart state short | bodyEnd state whole =>
    simp only [state,Machine.call,Machine.setNextState,weight_append,Call.weight]
    omega

theorem Turns.accounted (turns : Turns format machine buf after) :
    machine.accounted format + buf.length ≤ after.accounted format := by
  induction turns with
  | last turn => exact turn.accounted
  | more turn _ _ ih =>
    have first := turn.accounted
    rw [length_append]
    omega

section
variable (machine : Machine)

section
variable (valid : machine.Valid format)
include valid

theorem exists_overshoot (got : Nat)
    (more : got < machine.accounted format) :
    ∃ last ≠ [], ∃ after, Turns format machine last after ∧
      got + last.length < weight format after.calls := by
  have finished := valid.finished
  unfold Machine.accounted at more
  cases state : machine.state with
  | header =>
    simp only [state] at finished more
    have whole : machine.finishedSize +
      (replicate (format.headerSize - machine.finishedSize) (0 : UInt8)).length =
        format.headerSize := by
      rw [length_replicate]
      omega
    have some : replicate (format.headerSize - machine.finishedSize) (0 : UInt8) ≠ [] := by
      rw [Ne,replicate_eq_nil_iff]
      omega
    refine ⟨_,some,?_⟩
    by_cases body : 0 < format.bodySize
        (machine.copy (replicate (format.headerSize - machine.finishedSize) 0)).header
    · refine ⟨_,.last (.headerBody state whole body),?_⟩
      simp only [Machine.setNextState,Machine.call,Machine.copy,weight_append,Call.weight]
      omega
    · refine ⟨_,.last (.headerEmpty state whole body),?_⟩
      simp only [Machine.call,Machine.copy,weight_append,Call.weight]
      omega
  | body =>
    simp only [state] at finished more
    have whole : machine.finishedSize +
        (replicate (format.bodySize machine.header - machine.finishedSize) (0 : UInt8)).length =
          format.bodySize machine.header := by
      rw [length_replicate]
      omega
    have some : replicate (format.bodySize machine.header - machine.finishedSize) (0 : UInt8) ≠ [] := by
      rw [Ne,replicate_eq_nil_iff]
      omega
    refine ⟨_,some,_,.last (.bodyEnd state whole),?_⟩
    simp only [Machine.setNextState,Machine.call,weight_append,Call.weight]
    omega

theorem exists_empty_of_not_clean (buf : Bytes)
    (dirty : ¬ Clean format machine buf) :
    ∃ data rest after, buf = data++rest ∧ Turn format machine data true after ∧
      machine.accounted format + data.length < after.accounted format := by
  unfold Clean at dirty
  push Not at dirty
  obtain ⟨state,some,long,empty⟩ := dirty
  have finished := valid.finished
  simp only [state] at finished
  have whole : machine.finishedSize + (buf.take (format.headerSize - machine.finishedSize)).length =
      format.headerSize := by
    rw [length_take]
    omega
  have header : (machine.copy (buf.take (format.headerSize - machine.finishedSize))).header =
      (machine.header.take machine.finishedSize ++ buf).take format.headerSize := by
    have front : (machine.header.take machine.finishedSize).length = machine.finishedSize := by
      rw [length_take,valid.length]
      omega
    have inside : (machine.header.take machine.finishedSize).take format.headerSize =
        machine.header.take machine.finishedSize := take_of_length_le (by omega)
    rw [copy_whole _ valid.length whole,take_append,front,inside]
  rw [← header] at empty
  refine ⟨_,_,_,(take_append_drop _ _).symm,.headerEmpty state whole (by omega),?_⟩
  unfold Machine.accounted
  simp only [Machine.copy,Machine.call,weight_append,Call.weight]
  omega

theorem exists_turns_of_not_clean (buf : Bytes)
    (dirty : ¬ Clean format machine buf) :
    ∃ after, Turns format machine buf after ∧ machine.accounted format + buf.length <
      after.accounted format := by
  obtain ⟨data,rest,next,rfl,turn,beyond⟩ := exists_empty_of_not_clean machine valid buf dirty
  by_cases some : rest = []
  · subst some
    rw [append_nil]
    exact ⟨next,.last turn,beyond⟩
  · obtain ⟨after,turns⟩ := exists_turns next (turn.valid valid) rest
    refine ⟨after,.more turn some turns,?_⟩
    have counted := turns.accounted
    rw [length_append]
    omega

end

end

end

section
variable {format : Format} {memory : Bytes} {chunks : List Bytes} {chunk : Bytes}

theorem receive_append : receive format memory (chunks ++ [chunk]) =
    (work format (fun _ => true) (receive format memory chunks) chunk).1 := by
  rw [receive,Run.final_append]
  rfl

theorem wholeHeaders_append (chunks : List Bytes) (chunk : Bytes) : WholeHeaders format (chunks ++ [chunk]) ↔
    WholeHeaders format chunks ∧ WholeHeader format chunks.flatten chunk := by
  constructor
  · intro whole
    refine ⟨?_,whole chunks chunk [] rfl⟩
    intro before middle after split
    exact whole before middle (after ++ [chunk]) (by rw [split,append_assoc,cons_append])
  · rintro ⟨earlier,last⟩ before middle after split
    rcases eq_nil_or_concat' after with rfl | ⟨rest,final,rfl⟩
    · obtain ⟨rfl,same⟩ := append_inj' split rfl
      cases same
      exact last
    · rw [← cons_append,← append_assoc] at split
      exact earlier before middle rest (append_inj' split rfl).1

variable (length : memory.length = format.headerSize)
include length

theorem receive_valid (chunks : List Bytes) : (receive format memory chunks).Valid format := by
  induction chunks using reverseRecOn with
  | nil => exact ⟨length,format.positive⟩
  | append_singleton chunks chunk ih =>
    obtain ⟨after,turns⟩ := exists_turns _ ih chunk
    rw [receive_append,turns.work ih]
    exact turns.valid ih

theorem receive_turns (chunks : List Bytes) {after : Machine}
    (turns : Turns format (receive format memory chunks) chunk after) :
    receive format memory (chunks ++ [chunk]) = after := by
  rw [receive_append,turns.work (receive_valid length chunks)]

theorem receive_accounted (chunks : List Bytes) :
    chunks.flatten.length ≤ (receive format memory chunks).accounted format := by
  induction chunks using reverseRecOn with
  | nil => exact Nat.zero_le _
  | append_singleton chunks chunk ih =>
    obtain ⟨after,turns⟩ := exists_turns _ (receive_valid length chunks) chunk
    have counted := turns.accounted
    rw [receive_turns length chunks turns,flatten_append,length_append,flatten_singleton]
    omega

variable {messages : List (Bytes × Bytes)}

omit length in
section
variable {stream unfinished : Bytes} {machine : Machine}
  (tracks : Tracks format machine stream messages unfinished)
include tracks

theorem Tracks.clean (valid : machine.Valid format) (chunk : Bytes)
    (whole : WholeHeader format stream chunk) : Clean format machine chunk := by
  intro state
  obtain ⟨header,size,empty⟩ := tracks.pending valid state
  have pending : (decode format stream).2 = unfinished := by
    have decoded := tracks.decoded []
    rw [append_nil,append_nil,empty] at decoded
    rw [decoded]
  unfold WholeHeader at whole
  rw [pending,length_append] at whole
  rw [header,← size,length_eq_zero_iff]
  exact whole

omit length in
theorem Tracks.wholeHeader (valid : machine.Valid format)
    (clean : Clean format machine chunk) : WholeHeader format stream chunk := by
  have decoded := tracks.decoded []
  rw [append_nil,append_nil] at decoded
  unfold WholeHeader
  rw [decoded]
  cases state : machine.state with
  | header =>
    obtain ⟨header,size,empty⟩ := tracks.pending valid state
    have whole := clean state
    rw [header,← size,length_eq_zero_iff] at whole
    rwa [empty,length_append]
  | body =>
    obtain ⟨body,rfl,size,_⟩ := tracks.open_body valid state
    have finished := valid.finished
    simp only [state] at finished
    rw [decode_body format _ body valid.length (by omega)]
    exact Or.inl rfl

end

theorem receive_tracks (whole : WholeHeaders format chunks) :
    ∃ messages unfinished, Tracks format (receive format memory chunks) chunks.flatten messages
      unfinished := by
  induction chunks using reverseRecOn with
  | nil =>
    refine ⟨[],[],fun _ => rfl,?_,rfl⟩
    rfl
  | append_singleton chunks chunk ih =>
    obtain ⟨earlier,last⟩ := (wholeHeaders_append chunks chunk).mp whole
    obtain ⟨messages,unfinished,tracks⟩ := ih earlier
    have valid := receive_valid length chunks
    obtain ⟨after,turns⟩ := exists_turns _ valid chunk
    rw [receive_turns length chunks turns,flatten_append,flatten_singleton]
    exact turns.tracks valid (tracks.clean valid chunk last) tracks

theorem independent_of_wholeHeaders (whole : WholeHeaders format chunks) :
    Independent format memory chunks := by
  obtain ⟨messages,unfinished,tracks⟩ := receive_tracks length whole
  have decoded := tracks.decoded []
  rw [append_nil,append_nil] at decoded
  unfold Independent
  rw [tracks.delivered,decoded]

omit length in
theorem Independent.weight_le (independent : Independent format memory chunks) :
    weight format (receive format memory chunks).calls ≤ chunks.flatten.length := by
  rw [← deliveries_total format _ _ independent]
  exact decodeUpTo_total format _ _

theorem accounted_of_split (split : ¬ WholeHeaders format chunks) :
    chunks.flatten.length < (receive format memory chunks).accounted format := by
  induction chunks using reverseRecOn with
  | nil =>
    refine absurd ?_ split
    intro before chunk after none
    exact absurd none (by simp)
  | append_singleton chunks chunk ih =>
    have valid := receive_valid length chunks
    rw [flatten_append,length_append,flatten_singleton]
    by_cases earlier : WholeHeaders format chunks
    · obtain ⟨messages,unfinished,tracks⟩ := receive_tracks length earlier
      have dirty : ¬ Clean format (receive format memory chunks) chunk := by
        intro clean
        exact split ((wholeHeaders_append chunks chunk).mpr ⟨earlier,tracks.wholeHeader valid clean⟩)
      obtain ⟨after,turns,beyond⟩ := exists_turns_of_not_clean _ valid chunk dirty
      have got := receive_accounted length chunks
      rw [receive_turns length chunks turns]
      omega
    · obtain ⟨after,turns⟩ := exists_turns _ valid chunk
      have beyond := ih earlier
      have counted := turns.accounted
      rw [receive_turns length chunks turns]
      omega

theorem not_independent_of_overshoot (chunks : List Bytes) {last : Bytes} {after : Machine}
    (turns : Turns format (receive format memory chunks) last after)
    (beyond : chunks.flatten.length + last.length < weight format after.calls) :
    ¬ Independent format memory (chunks ++ [last]) := by
  intro independent
  have bound := independent.weight_le
  rw [receive_turns length chunks turns,flatten_append,length_append,flatten_singleton] at bound
  omega

theorem wholeHeaders_of_independent
    (independent : ∀ last, last ≠ [] → Independent format memory (chunks ++ [last]))
    {last : Bytes} :
    WholeHeaders format (chunks ++ [last]) := by
  have valid := receive_valid length chunks
  have earlier : WholeHeaders format chunks := by
    by_contra split
    obtain ⟨next,some,after,turns,beyond⟩ := exists_overshoot _ valid _ (accounted_of_split length split)
    exact not_independent_of_overshoot length chunks turns beyond (independent next some)
  obtain ⟨messages,unfinished,tracks⟩ := receive_tracks length earlier
  refine (wholeHeaders_append chunks last).mpr ⟨earlier,tracks.wholeHeader valid ?_⟩
  -- a last chunk that ends the header of an empty msg could go on with another header
  by_contra dirty
  obtain ⟨data,rest,next,_,turn,beyond⟩ := exists_empty_of_not_clean _ valid last dirty
  have got := receive_accounted length chunks
  obtain ⟨further,some,after,turns,more⟩ := exists_overshoot next (turn.valid valid)
    (chunks.flatten.length + data.length) (by omega)
  refine not_independent_of_overshoot length chunks (.more turn some turns) ?_ (independent _ ?_)
  · rw [length_append]
    omega
  · exact append_ne_nil_of_right_ne_nil data some

end

/-- A chunking that splits no header of an empty message gives the processor the messages
of the stream, and only such a chunking does so however its last chunk goes on. -/
theorem chunking_independent (format : Format) (memory : Bytes) (length : memory.length = format.headerSize)
    (chunks : List Bytes) : (WholeHeaders format chunks → Independent format memory chunks) ∧
      ((∀ last, last ≠ [] → Independent format memory (chunks ++ [last])) ↔
        ∀ last, last ≠ [] → WholeHeaders format (chunks ++ [last])) := by
  refine ⟨independent_of_wholeHeaders length,?_,?_⟩
  · intro independent last _
    exact wholeHeaders_of_independent length independent
  · intro whole last some
    exact independent_of_wholeHeaders length (whole last some)

def sampleFormat : Format := ⟨2,fun header => header.getLast?.elim 0 UInt8.toNat,by decide⟩

instance (stream chunk : Bytes) : Decidable (WholeHeader sampleFormat stream chunk) :=
  inferInstanceAs (Decidable (_ ∨ _ ∨ _))

def sampleChunks : List Bytes := [[1],[2,7],[8,1,0],[1]]

theorem sampleChunks_whole : WholeHeaders sampleFormat sampleChunks := by
  have none : WholeHeaders sampleFormat [] := by
    intro before chunk after split
    exact absurd split (by simp)
  have one := (wholeHeaders_append [] [1]).mpr ⟨none,by decide⟩
  have two := (wholeHeaders_append [[1]] [2,7]).mpr ⟨one,by decide⟩
  have three := (wholeHeaders_append [[1],[2,7]] [8,1,0]).mpr ⟨two,by decide⟩
  exact (wholeHeaders_append [[1],[2,7],[8,1,0]] [1]).mpr ⟨three,by decide⟩

theorem chunking_independent_two : (decode sampleFormat sampleChunks.flatten).1 = [([1,2],[7,8]),([1,0],[])] ∧
      Independent sampleFormat [0,0] sampleChunks :=
  ⟨by decide,(chunking_independent sampleFormat [0,0] rfl sampleChunks).1 sampleChunks_whole⟩

theorem chunking_dependent : Independent sampleFormat [0,0] [[1,0,1,0]] ∧
    ¬ Independent sampleFormat [0,0] [[1],[0,1,0]] := by
  unfold Independent
  decide

end Mooon.Net

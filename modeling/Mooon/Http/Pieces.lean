import Mooon.Http.Head

/-! When a head in pieces is parsed as the whole head is. Every line feed of a head but the
last starts a line, so the cuts that matter are those behind one of its lines and the line
feed that follows. -/
namespace Mooon.Http
open Net (Bytes HandleResult)
open List

theorem first_feed {start first later second : Bytes} (none : lineFeed ∉ start)
    (same : start ++ lineFeed::first = later ++ lineFeed::second) : later = start ∧ second = first ∨
      ∃ between, later = start ++ lineFeed::between ∧ first = between ++ lineFeed::second := by
  induction start generalizing later with
  | nil =>
    cases later with
    | nil =>
      simp only [nil_append,cons.injEq,true_and] at same
      exact Or.inl ⟨rfl,same.symm⟩
    | cons char later =>
      simp only [nil_append,cons_append,cons.injEq] at same
      exact Or.inr ⟨later,by rw [← same.1,nil_append],same.2⟩
  | cons char start ih =>
    have other : char ≠ lineFeed := fun same => none (by simp [same])
    cases later with
    | nil =>
      simp only [nil_append,cons_append,cons.injEq] at same
      exact absurd same.1 other
    | cons char' later =>
      simp only [cons_append,cons.injEq] at same
      obtain ⟨rfl,same⟩ := same
      rcases ih (fun mem => none (mem_cons_of_mem _ mem)) same with ⟨rfl,rest⟩ | ⟨between,shape,rest⟩
      · exact Or.inl ⟨rfl,rest⟩
      · exact Or.inr ⟨between,by rw [shape,cons_append],rest⟩

theorem Field.bytes_tail (field : Field) : ∃ tail, field.bytes = lineFeed::tail ∧ lineFeed ∉ tail := by
  refine ⟨_,rfl,?_⟩
  simp only [mem_append,mem_cons,mem_replicate,not_or]
  exact ⟨fun named => (field.nameBytes _ named).1.2.2 rfl,by decide,
    ⟨fun spaced => absurd spaced.2 (by decide),fun valued => (field.valueBytes _ valued).2.2 rfl⟩,by decide⟩

theorem feed_place (fields : List Field) (start done rest : Bytes) (none : lineFeed ∉ start)
    (more : rest ≠ [])
    (split : start ++ ((fields.map Field.bytes).flatten ++ [lineFeed,carriageReturn,lineFeed]) =
      done ++ lineFeed::rest) :
    ∃ count ≤ fields.length, done = start ++ ((fields.take count).map Field.bytes).flatten := by
  induction fields generalizing start done with
  | nil =>
    rcases first_feed none split with ⟨rfl,-⟩ | ⟨between,-,last⟩
    · exact ⟨0,le_rfl,by simp⟩
    · rcases first_feed (by decide) (show [carriageReturn] ++ lineFeed::[] = _ from last) with
        ⟨-,empty⟩ | ⟨after,-,empty⟩
      · exact absurd empty more
      · simp at empty
  | cons field fields ih =>
    obtain ⟨tail,shape,inside⟩ := field.bytes_tail
    rw [map_cons,flatten_cons,append_assoc,shape] at split
    rcases first_feed none split with ⟨rfl,-⟩ | ⟨between,rfl,further⟩
    · exact ⟨0,Nat.zero_le _,by simp⟩
    · obtain ⟨count,bound,place⟩ := ih tail between inside further
      exact ⟨count+1,Nat.succ_le_succ bound,by simp [place,shape]⟩

variable (head : Head)

theorem Head.startLine_feed : lineFeed ∉ head.startLine := by
  simp only [Head.startLine,mem_append,mem_cons,not_or]
  exact ⟨fun mem => (head.firstWord.2 _ mem).1.2.2 rfl,by decide,
    fun mem => (head.secondWord.2 _ mem).1.2.2 rfl,by decide,
    fun mem => (head.thirdBytes _ mem).2.2 rfl,by decide⟩

variable (done rest : Bytes)

theorem Head.feed_place (split : head.bytes = done ++ rest) (more : rest ≠ [])
    (ended : done.getLast? = some lineFeed) :
    ∃ count ≤ head.fields.length, done = head.lines count ++ [lineFeed] := by
  obtain ⟨before,rfl⟩ := getLast?_eq_some_iff.mp ended
  rw [Head.bytes,Head.lines,take_length,append_assoc,append_assoc] at split
  obtain ⟨count,bound,place⟩ := Http.feed_place head.fields _ before rest head.startLine_feed more split
  exact ⟨count,bound,by rw [Head.lines,place]⟩

theorem Head.feed_next {char : UInt8} {rest : Bytes}
    (split : head.bytes = done ++ char::rest) (ended : done.getLast? = some lineFeed) : char ≠ lineFeed := by
  rintro rfl
  have behind : done.getLast? = some carriageReturn := by
    by_cases last : rest = []
    · have shape : head.bytes = (head.lines head.fields.length ++ [lineFeed,carriageReturn]) ++
          [lineFeed] := by
        simp [Head.bytes]
      rw [shape,last] at split
      rw [← (append_inj' split rfl).1]
      simp
    · obtain ⟨count,-,place⟩ := head.feed_place (done++[lineFeed]) rest (by simp [split]) last getLast?_concat
      rw [(append_inj' place rfl).1,head.lines_getLast]
  rw [ended] at behind
  exact absurd behind (by decide)

/-- The head has an end, and no cut is behind the line feed of a line unless a text runs on there. -/
def Head.Resumable (head : Head) (pieces : List Bytes) : Prop :=
  head.runsOn head.fields.length = false ∧
    ∀ before after, pieces = before++after → ∀ count ≤ head.fields.length,
      before.flatten = head.lines count ++ [lineFeed] → head.runsOn count = true

theorem Head.lines_length_le (count : Nat) :
    (head.lines count).length ≤ (head.lines head.fields.length).length := by
  have split : head.lines head.fields.length = head.lines count ++
      ((head.fields.drop count).map Field.bytes).flatten := by
    rw [Head.lines,Head.lines,take_length,append_assoc,← flatten_append,← map_append,
      take_append_drop]
  rw [split,length_append]
  exact Nat.le_add_right _ _

theorem flatten_ne_nil {pieces : List Bytes} (nonempty : ∀ piece ∈ pieces, piece ≠ []) (some : pieces ≠ []) :
    pieces.flatten ≠ [] := by
  obtain ⟨piece,rest,rfl⟩ := exists_cons_of_ne_nil some
  simp [nonempty piece (by simp)]

section
variable (head : Head) (address : Nat) {pieces : List Bytes} (whole : pieces.flatten = head.bytes)
  (nonempty : ∀ piece ∈ pieces, piece ≠ [])
include whole nonempty

variable {before after : List Bytes}

theorem Head.before_continues (split : pieces = before++after) (later : after ≠ []) :
    ((Parser.reset head.isRequest).parse always address before.flatten).2 = .handleContinue := by
  have more := flatten_ne_nil (fun piece mem => nonempty piece (by simp [split,mem])) later
  exact head.begin_continues address before.flatten after.flatten (by rw [← whole,split,flatten_append]) more

theorem Head.settled_of_resumable (resumable : head.Resumable pieces)
    (split : pieces = before++after) (later : after ≠ []) :
    Settled always (.reset head.isRequest) address before.flatten := by
  refine ⟨head.before_continues address whole nonempty split later,fun pending => ?_⟩
  have more := flatten_ne_nil (fun piece mem => nonempty piece (by simp [split,mem])) later
  obtain ⟨count,bound,place⟩ := head.feed_place before.flatten after.flatten
    (by rw [← whole,split,flatten_append]) more pending.2.2
  rw [place,head.feed_pending] at pending
  rw [resumable.2 before after split count bound place] at pending
  cases pending

omit nonempty in
theorem Head.resumable_of_settled (closed : head.runsOn head.fields.length = false)
    (settled : ∀ before after, pieces = before++after → before ≠ [] → after ≠ [] →
      Settled always (.reset head.isRequest) address before.flatten) : head.Resumable pieces := by
  refine ⟨closed,fun before after split count bound place => ?_⟩
  have first : before ≠ [] := by
    rintro rfl
    simp at place
  have later : after ≠ [] := by
    rintro rfl
    rw [append_nil] at split
    rw [← split,whole] at place
    have sizes := congrArg length place
    have bound := head.lines_length_le count
    simp only [Head.bytes,length_append,length_cons] at sizes
    omega
  by_contra cut
  rw [Bool.not_eq_true,← head.feed_pending address count,← place] at cut
  exact (settled before after split first later).2 cut

/-- A head in pieces is parsed as in one call exactly when no text runs on at its end and no
piece ends behind the line feed of a line at which none does. -/
theorem head_in_pieces_iff : (Run.outputs (feed always) (.reset head.isRequest,address) pieces =
        replicate (pieces.length-1) .handleContinue ++ [.handleFinish] ∧
      (Run.final (feed always) (.reset head.isRequest,address) pieces).1.scan.events =
        ((Parser.reset head.isRequest).parse always address head.bytes).1.scan.events ∧
      (Run.final (feed always) (.reset head.isRequest,address) pieces).1.headLength =
        ((Parser.reset head.isRequest).parse always address head.bytes).1.headLength) ↔
          head.Resumable pieces := by
  have some : pieces ≠ [] := by
    rintro rfl
    simp [Head.bytes] at whole
  have clean : nul ∉ pieces.flatten := by
    rw [whole]
    exact head.bytes_clean
  constructor
  · rintro ⟨answers,-⟩
    have settled := feed_settled pieces clean nonempty
      (fun before after split _ later => head.before_continues address whole nonempty split later)
      (fun done char rest split => head.feed_next done (by rw [← whole,split]))
      (by rw [answers]; simp)
    have closed : head.runsOn head.fields.length = false := by
      by_contra swallowed
      have continues := head.parse_continues address (Bool.not_eq_false _ ▸ swallowed)
      obtain ⟨-,answers'⟩ := feed_pieces pieces some clean settled (by rw [whole,continues]; simp)
      rw [answers,whole,continues] at answers'
      simp at answers'
    exact head.resumable_of_settled address whole closed settled
  · intro resumable
    obtain ⟨finishes,-⟩ := head.parse_finishes address resumable.1
    obtain ⟨reached,answers⟩ := feed_pieces pieces some clean
      (fun before after split _ later => head.settled_of_resumable address whole nonempty resumable
        split later)
      (by rw [whole,finishes]; simp)
    rw [reached,answers,whole,finishes]
    exact ⟨rfl,rfl,rfl⟩

end

def smallHead : Head :=
  ⟨true,[71],[47],[86],[],⟨by decide,List.forall_mem_singleton.mpr (by decide)⟩,
    ⟨by decide,List.forall_mem_singleton.mpr (by decide)⟩,List.forall_mem_singleton.mpr
      (by decide),by decide,by decide⟩

theorem head_in_pieces_inside_words : [[71],[32,47,32,86],[13],[10,13],[10]].flatten = smallHead.bytes ∧
      (∀ piece ∈ [[71],[32,47,32,86],[13],[10,13],[10]], piece ≠ ([] : Bytes)) ∧
      smallHead.Resumable [[71],[32,47,32,86],[13],[10,13],[10]] :=
  ⟨by decide,by decide,(head_in_pieces_iff smallHead 0 (by decide) (by decide)).mp
    ⟨by decide,by decide,by decide⟩⟩

theorem head_line_by_line_refused : [[71,32,47,32,86,13,10],[13,10]].flatten = smallHead.bytes ∧
      Run.outputs (feed always) (.reset true,0) [[71,32,47,32,86,13,10],[13,10]] =
        [.handleContinue,.handleError] ∧
      ((Parser.reset true).parse always 0 smallHead.bytes).2 = .handleFinish := by
  decide

end Mooon.Http

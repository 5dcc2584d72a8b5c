import Mooon.Run
import Mooon.UniqId.Agent
import Mathlib.Data.List.ReduceOption
import Mathlib.Order.Interval.Finset.Nat

/-! Sequence numbers across crashes. The block on disk lags behind the counter;
a restart skips twice `steps`, which covers the lag when every reported store is
durable, and misses it by two numbers when the last one is lost. -/
namespace Mooon.UniqId.Agent
open Run

variable (agent : State)

@[simp] theorem storeSequence_true :
    storeSequence true agent = ({agent with
      seqBlock := agent.seqBlock.updateMagic
      sequenceFile := .block agent.seqBlock.updateMagic
      sequenceStart := agent.seqBlock.sequence},true) := rfl

@[simp] theorem storeSequence_false :
    storeSequence false agent = ({agent with
      seqBlock := agent.seqBlock.updateMagic
      ioError := true},false) := rfl

variable {block : SeqBlock}

@[simp] theorem updateMagic_sequence : block.updateMagic.sequence = block.sequence := rfl
def State.withSequence (agent : State) (sequence : UInt32) : State :=
  {agent with seqBlock := {agent.seqBlock with sequence := sequence}}

variable (config : Config)

theorem incSequence_cases (deta : UInt16) (written : Bool) (agent : State) :
    (storeDue config agent = true ∧ written = false ∧
      incSequence config deta written agent = ((storeSequence false agent).1,0)) ∨
    ∃ base, (storeDue config agent = false ∧ base = agent ∨
        storeDue config agent = true ∧ written = true ∧ base = (storeSequence true agent).1) ∧
      incSequence config deta written agent =
        (base.withSequence (takeSequence deta agent.seqBlock.sequence).2,
          (takeSequence deta agent.seqBlock.sequence).1) := by
  cases due : storeDue config agent with
  | false =>
    simp [incSequence,due,State.withSequence]
  | true =>
    cases written with
    | false => exact .inl ⟨rfl,rfl,by simp [incSequence,due]⟩
    | true =>
      simp [incSequence,due,State.withSequence]

theorem takeSequence_fits (deta : UInt16) (seq : UInt32) (pos : 0 < seq.toNat)
    (fits : seq.toNat + max deta.toNat 1 < 2^32) : (takeSequence deta seq).1 = seq ∧
      (takeSequence deta seq).2.toNat = seq.toNat + max deta.toNat 1 := by
  have nonzero : seq ≠ 0 := by
    intro zero
    simp [zero] at pos
  unfold takeSequence
  split
  · rename_i single
    have single : deta.toNat ≤ 1 := by simpa using UInt16.le_iff_toNat_le.mp single
    refine ⟨rfl,?_⟩
    rw [UInt32.toNat_add,UInt32.toNat_one]
    omega
  · rename_i batch
    have batch : ¬ deta.toNat ≤ 1 := fun h => batch (UInt16.le_iff_toNat_le.mpr (by simpa using h))
    have sum : (seq + deta.toUInt32).toNat = seq.toNat + deta.toNat := by
      rw [UInt32.toNat_add,UInt16.toNat_toUInt32]
      omega
    have grows : seq < seq + deta.toUInt32 := by
      rw [UInt32.lt_iff_toNat_lt]
      omega
    rw [if_pos grows]
    refine ⟨rfl,?_⟩
    rw [sum]
    omega

theorem storeDue_iff (agent : State) (ordered : agent.sequenceStart.toNat ≤ agent.seqBlock.sequence.toNat) :
    storeDue config agent = true ↔
      config.steps.toNat < agent.seqBlock.sequence.toNat - agent.sequenceStart.toNat := by
  have lag := UInt32.toNat_sub_of_le agent.seqBlock.sequence agent.sequenceStart
    (UInt32.le_iff_toNat_le.mpr ordered)
  simp only [storeDue,UInt32.lt_iff_toNat_lt,Bool.or_eq_true,decide_eq_true_eq]
  omega

inductive Machine where
  | down (file : SeqFile)
  | up (agent : State)

def Machine.file : Machine → SeqFile
  | .down file => file
  | .up agent => agent.sequenceFile

inductive Op where
  | inc (num : UInt16) (written : Bool)
  | label (response : MessageHead) (written : Bool)
  | restart (now : TimeT) (replies : List (Option MessageHead)) (written : Bool)

structure Range where
  first : Nat
  count : Nat
deriving DecidableEq, Repr

def Range.numbers (range : Range) : Finset Nat := Finset.Ico range.first (range.first + range.count)

def restart (config : Config) (now : TimeT) (replies : List (Option MessageHead)) (written : Bool)
    (file : SeqFile) : Machine :=
  match restoreSequence config replies written (.start file now) with
  | (agent,true) => .up agent
  | (agent,false) => .down agent.sequenceFile

def perform (config : Config) : Machine → Op → Machine × Option Range
  | .up agent, .inc num written =>
    let (agent,sequence) := incSequence config num written agent
    (.up agent,if sequence = 0 then none else some ⟨sequence.toNat,max num.toNat 1⟩)
  | .up agent, .label response written => (.up (onResponseLabel response written agent),none)
  | .down file, .inc _ _ => (.down file,none)
  | .down file, .label _ _ => (.down file,none)
  | machine, .restart now replies written => (restart config now replies written machine.file,none)

def issued (config : Config) (file : SeqFile) (ops : List Op) : List Range :=
  (Run.outputs (perform config) (.down file) ops).reduceOption

def SkipFits (config : Config) : SeqFile → Prop
  | .block block => block.sequence.toNat + 2 * config.steps.toNat < 2^32
  | _ => True

instance (config : Config) : (file : SeqFile) → Decidable (SkipFits config file)
  | .block _ => inferInstanceAs (Decidable (_ < _))
  | .empty | .torn => inferInstanceAs (Decidable True)

/-- The documented limit on `num`, and no wrap of the counter in this step. -/
def Regular (config : Config) : Machine → Op → Prop
  | .up agent, .inc num written => num.toNat ≤ config.steps.toNat ∧
    ((incSequence config num written agent).2 ≠ 0 → agent.seqBlock.sequence.toNat + max num.toNat 1 < 2^32)
  | machine, .restart _ _ _ => SkipFits config machine.file
  | _, _ => True

instance (config : Config) : (machine : Machine) → (op : Op) → Decidable (Regular config machine op)
  | .up _, .inc _ _ => inferInstanceAs (Decidable (_ ∧ (_ → _)))
  | .down _, .inc _ _ | .up _, .label _ _ | .down _, .label _ _ => inferInstanceAs (Decidable True)
  | .up agent, .restart _ _ _ => inferInstanceAs (Decidable (SkipFits config agent.sequenceFile))
  | .down file, .restart _ _ _ => inferInstanceAs (Decidable (SkipFits config file))

def Lagging (config : Config) : Machine → Prop
  | .down _ => True
  | .up agent => 0 < agent.seqBlock.sequence.toNat ∧
    (∃ block, agent.sequenceFile = .block block ∧ block.sequence = agent.sequenceStart) ∧
    agent.sequenceStart.toNat ≤ agent.seqBlock.sequence.toNat ∧
    agent.seqBlock.sequence.toNat ≤ agent.sequenceStart.toNat + 2 * config.steps.toNat

def position (config : Config) : Machine → Nat
  | .down (.block block) => block.sequence.toNat + 2 * config.steps.toNat
  | .down _ => 0
  | .up agent => agent.seqBlock.sequence.toNat

def SameCounter (first second : State) : Prop :=
  second.sequenceFile = first.sequenceFile ∧ second.seqBlock.sequence = first.seqBlock.sequence

theorem receiveLabel_counter (reply : Option MessageHead) :
    SameCounter agent (receiveLabel agent reply).1 := by
  unfold receiveLabel
  cases reply with
  | none => exact ⟨rfl,rfl⟩
  | some reply => dsimp only; split_ifs <;> exact ⟨rfl,rfl⟩

theorem rentLabelSync_counter (rounds : Nat) (replies : List (Option MessageHead)) (agent : State) :
    SameCounter agent (rentLabelSync rounds replies agent).1 := by
  induction rounds generalizing replies agent with
  | zero => exact ⟨rfl,rfl⟩
  | succ rounds ih =>
    have sent : SameCounter agent (rentRequest agent).1 := ⟨rfl,rfl⟩
    have got := receiveLabel_counter (rentRequest agent).1 replies.head?.join
    unfold rentLabelSync
    split
    · rename_i next label eq
      rw [eq] at got
      exact ⟨got.1.trans sent.1,got.2.trans sent.2⟩
    · rename_i next eq
      rw [eq] at got
      have later := ih replies.tail next
      exact ⟨later.1.trans (got.1.trans sent.1),later.2.trans (got.2.trans sent.2)⟩
    · rename_i next eq
      rw [eq] at got
      exact ⟨got.1.trans sent.1,got.2.trans sent.2⟩

def firstSequence (config : Config) : SeqFile → Option UInt32
  | .block block => some (block.sequence + 2 * config.steps)
  | .empty => some config.steps
  | .torn => none

def ReadFrom (config : Config) (file : SeqFile) (agent : State) : Prop :=
  agent.sequenceFile = file ∧ firstSequence config file = some (restoreStart config agent)

theorem ReadFrom.sameCounter {config : Config} {file : SeqFile} {first second : State}
    (read : ReadFrom config file first) (same : SameCounter first second) : ReadFrom config file second := by
  refine ⟨same.1.trans read.1,read.2.trans ?_⟩
  simp only [restoreStart,same.1,same.2]

variable {agent : State}

theorem restoreRead_cases : restoreRead config agent = .failed ∨
    ∃ found, ReadFrom config agent.sequenceFile found ∧
      (restoreRead config agent = .rent found ∨ ∃ label, restoreRead config agent = .known found label) := by
  unfold restoreRead
  cases file : agent.sequenceFile with
  | torn => exact .inl rfl
  | empty =>
    have read : ReadFrom config .empty agent := ⟨file,by simp [firstSequence,restoreStart,file]⟩
    dsimp only
    split_ifs
    · exact .inr ⟨agent,read,.inl rfl⟩
    · exact .inr ⟨agent,read,.inr ⟨_,rfl⟩⟩
    · exact .inl rfl
  | block block =>
    have read : ReadFrom config (.block block) {agent with seqBlock := block} :=
      ⟨file,by simp [firstSequence,restoreStart,file]⟩
    dsimp only
    split_ifs
    · exact .inl rfl
    · exact .inr ⟨_,read,.inr ⟨_,by rw [file]⟩⟩
    · exact .inr ⟨_,read,.inl (by rw [file])⟩
    · exact .inr ⟨_,read,.inr ⟨_,by rw [file]⟩⟩

def RestoredFrom (config : Config) (file : SeqFile) (result : State × Bool) : Prop :=
  result.2 = false ∧ result.1.sequenceFile = file ∨
  result.2 = true ∧ result.1.sequenceFile = .block result.1.seqBlock ∧
    result.1.sequenceStart = result.1.seqBlock.sequence ∧
    firstSequence config file = some result.1.seqBlock.sequence

theorem restoreStore_from {label : UInt32} {written : Bool} {file : SeqFile}
    (read : ReadFrom config file agent) :
    RestoredFrom config file (restoreStore config label written agent) := by
  cases written with
  | false => exact .inl ⟨rfl,read.1⟩
  | true => exact .inr ⟨rfl,rfl,rfl,read.2⟩

variable (replies : List (Option MessageHead)) (written : Bool)

theorem restoreSequence_from (agent : State) :
    RestoredFrom config agent.sequenceFile (restoreSequence config replies written agent) := by
  unfold restoreSequence
  rcases restoreRead_cases config with failed | ⟨found,read,rent | ⟨label,known⟩⟩
  · rw [failed]
    exact .inl ⟨rfl,rfl⟩
  · rw [rent]
    dsimp only
    have later := read.sameCounter (rentLabelSync_counter 2 replies found)
    cases rented : rentLabelSync 2 replies found with
    | mk next label =>
      rw [rented] at later
      cases label with
      | none => exact .inl ⟨rfl,later.1⟩
      | some label =>
        simp only [restoreRented]
        split
        · exact restoreStore_from config later
        · exact .inl ⟨rfl,later.1⟩
  · rw [known]
    exact restoreStore_from config read

variable {replies : List (Option MessageHead)} {now : TimeT}

theorem restart_cases {written : Bool} {file : SeqFile} :
    restart config now replies written file = .down file ∨
    ∃ agent, restart config now replies written file = .up agent ∧
      agent.sequenceFile = .block agent.seqBlock ∧ agent.sequenceStart = agent.seqBlock.sequence ∧
      firstSequence config file = some agent.seqBlock.sequence := by
  have restored := restoreSequence_from config replies written (.start file now)
  unfold restart
  cases res : restoreSequence config replies written (.start file now) with
  | mk agent ok =>
    rw [res] at restored
    rcases restored with ⟨failed,kept⟩ | ⟨done,onDisk,start,first⟩
    · dsimp only at failed kept
      subst failed
      exact .inl (congrArg Machine.down kept)
    · dsimp only at done
      subst done
      exact .inr ⟨agent,rfl,onDisk,start,first⟩

theorem takeSequence_ne_zero (deta : UInt16) (seq : UInt32) (pos : 0 < seq.toNat) :
    (takeSequence deta seq).1 ≠ 0 := by
  have nonzero : seq ≠ 0 := by
    intro zero
    simp [zero] at pos
  unfold takeSequence
  split_ifs
  · exact nonzero
  · exact nonzero
  · exact (by decide : (1 : UInt32) ≠ 0)

theorem incSequence_lagging {num : UInt16} {written : Bool}
    (pos : 0 < config.steps.toNat) (lagging : Lagging config (.up agent))
    (regular : Regular config (.up agent) (.inc num written)) :
    Lagging config (.up (incSequence config num written agent).1) ∧
    agent.seqBlock.sequence.toNat ≤ (incSequence config num written agent).1.seqBlock.sequence.toNat ∧
    ((incSequence config num written agent).2 ≠ 0 →
      (incSequence config num written agent).2 = agent.seqBlock.sequence ∧
      (incSequence config num written agent).1.seqBlock.sequence.toNat =
        agent.seqBlock.sequence.toNat + max num.toNat 1) := by
  obtain ⟨counted,⟨block,onDisk,mark⟩,ordered,covered⟩ := lagging
  obtain ⟨limit,noWrap⟩ := regular
  have due := storeDue_iff config agent ordered
  rcases incSequence_cases config num written agent with ⟨_,_,eq⟩ | ⟨base,origin,eq⟩
  · rw [eq]
    exact ⟨⟨counted,⟨block,onDisk,mark⟩,ordered,covered⟩,Nat.le_refl _,fun nonzero => absurd rfl nonzero⟩
  · have taken : (incSequence config num written agent).2 ≠ 0 := by
      rw [eq]
      exact takeSequence_ne_zero num _ counted
    obtain ⟨first,next⟩ := takeSequence_fits num agent.seqBlock.sequence counted (noWrap taken)
    rw [eq]
    refine ⟨?_,?_,fun _ => ⟨first,next⟩⟩
    · rcases origin with ⟨fresh,rfl⟩ | ⟨_,_,rfl⟩
      -- no store was due: the lag before the call is at most `steps`
      · have near : ¬ config.steps.toNat < base.seqBlock.sequence.toNat - base.sequenceStart.toNat := by
          rw [← due,fresh]
          exact Bool.false_ne_true
        refine ⟨?_,⟨block,onDisk,mark⟩,?_,?_⟩ <;>
          simp only [State.withSequence] <;> omega
      -- the store has just caught up with the counter
      · refine ⟨?_,⟨_,rfl,rfl⟩,?_,?_⟩ <;>
          simp only [State.withSequence,storeSequence_true] <;> omega
    · simp only [State.withSequence]
      omega

theorem onResponseLabel_lagging {resp : MessageHead} {written : Bool}
    (lagging : Lagging config (.up agent)) : Lagging config (.up (onResponseLabel resp written agent)) ∧
    (onResponseLabel resp written agent).seqBlock.sequence = agent.seqBlock.sequence := by
  obtain ⟨counted,disk,ordered,covered⟩ := lagging
  unfold onResponseLabel
  dsimp only
  split
  · cases written with
    | false => exact ⟨⟨counted,disk,ordered,covered⟩,rfl⟩
    | true =>
      refine ⟨⟨counted,⟨_,rfl,rfl⟩,Nat.le_refl _,?_⟩,rfl⟩
      simp only [storeSequence_true,updateMagic_sequence]
      omega
  · exact ⟨⟨counted,disk,ordered,covered⟩,rfl⟩

theorem position_le_restart {machine : Machine} (lagging : Lagging config machine) :
    position config machine ≤ position config (.down machine.file) := by
  cases machine with
  | down file => exact Nat.le_refl _
  | up agent =>
    obtain ⟨_,⟨block,onDisk,mark⟩,_,covered⟩ := lagging
    simp only [Machine.file,onDisk,position,mark]
    exact covered

theorem firstSequence_block {first : UInt32}
    (found : firstSequence config (.block block) = some first) (fits : SkipFits config (.block block)) :
    first.toNat = block.sequence.toNat + 2 * config.steps.toNat := by
  have start : block.sequence + 2 * config.steps = first := by simpa [firstSequence] using found
  change block.sequence.toNat + 2 * config.steps.toNat < 2^32 at fits
  rw [← start,UInt32.toNat_add,UInt32.toNat_mul]
  simp only [UInt32.reduceToNat]
  omega

variable (file : SeqFile)

theorem firstSequence_toNat {first : UInt32} (found : firstSequence config file = some first)
    (fits : SkipFits config file) :
    position config (.down file) ≤ first.toNat ∧ config.steps.toNat ≤ first.toNat := by
  cases file with
  | torn => simp [firstSequence] at found
  | empty =>
    have start : config.steps = first := by simpa [firstSequence] using found
    simp [position,start]
  | block block =>
    have sum := firstSequence_block config found fits
    simp only [position]
    omega

theorem restart_lagging {written : Bool}
    {machine : Machine} (pos : 0 < config.steps.toNat) (lagging : Lagging config machine)
    (fits : SkipFits config machine.file) : Lagging config (restart config now replies written machine.file) ∧
      position config machine ≤ position config (restart config now replies written machine.file) := by
  have behind := position_le_restart config lagging
  rcases restart_cases config with
    failed | ⟨agent,started,onDisk,start,found⟩
  · rw [failed]
    exact ⟨trivial,behind⟩
  · obtain ⟨ahead,skipped⟩ := firstSequence_toNat config machine.file found fits
    rw [started]
    refine ⟨⟨by omega,⟨_,onDisk,start.symm⟩,Nat.le_of_eq (congrArg UInt32.toNat start),?_⟩,behind.trans ahead⟩
    rw [start]
    omega

def Range.Between (low high : Nat) (range : Option Range) : Prop :=
  ∀ r ∈ range, low ≤ r.first ∧ r.first + r.count ≤ high

theorem perform_step (pos : 0 < config.steps.toNat) {machine : Machine} {op : Op}
    (lagging : Lagging config machine) (regular : Regular config machine op) :
    Lagging config (perform config machine op).1 ∧
    position config machine ≤ position config (perform config machine op).1 ∧
    Range.Between (position config machine) (position config (perform config machine op).1)
      (perform config machine op).2 := by
  have silent (low high : Nat) : Range.Between low high none := by simp [Range.Between]
  cases op with
  | inc num written =>
    cases machine with
    | down file => exact ⟨trivial,Nat.le_refl _,silent _ _⟩
    | up agent =>
      obtain ⟨kept,forward,taken⟩ := incSequence_lagging config pos lagging regular
      refine ⟨kept,forward,?_⟩
      intro range mem
      simp only [perform] at mem
      split at mem
      · simp at mem
      · rename_i nonzero
        obtain ⟨first,next⟩ := taken nonzero
        simp only [Option.mem_def,Option.some.injEq] at mem
        subst mem
        simp only [first,position,perform]
        omega
  | label resp written =>
    cases machine with
    | down file => exact ⟨trivial,Nat.le_refl _,silent _ _⟩
    | up agent =>
      obtain ⟨kept,same⟩ := onResponseLabel_lagging config lagging
      refine ⟨kept,?_,silent _ _⟩
      simp only [perform,position,same]
      exact Nat.le_refl _
  | restart now replies written =>
    have fits : SkipFits config machine.file := by cases machine <;> exact regular
    obtain ⟨kept,forward⟩ := restart_lagging config pos lagging fits
    cases machine <;> exact ⟨kept,forward,silent _ _⟩

/-- No sequence number is handed out twice, whatever the interleaving of calls, label
changes and crashes, as long as every reported store is durable. -/
theorem issued_disjoint (config : Config) (positive : 0 < config.steps.toNat) (file : SeqFile)
    (ops : List Op) (regular : Run.Meets (Regular config) (perform config) (.down file) ops) :
    (issued config file ops).Pairwise (fun first second => Disjoint first.numbers second.numbers) := by
  have ordered := outputs_pairwise (Lagging config) (position config) Range.Between
    (fun x y => ∀ first ∈ x, ∀ second ∈ y, first.first + first.count ≤ second.first)
    (fun machine op lagging regular => (perform_step config positive lagging regular).1)
    (fun machine op lagging regular => (perform_step config positive lagging regular).2.1)
    (fun machine op lagging regular => (perform_step config positive lagging regular).2.2)
    (fun a b c d x y inside reached later first hx second hy =>
      (inside first hx).2.trans (reached.trans (later second hy).1))
    (.down file) ops trivial regular
  change (List.filterMap id _).Pairwise _
  rw [List.pairwise_filterMap]
  apply ordered.imp
  intro x y apart first hx second hy
  have apart := apart first hx second hy
  rw [Finset.disjoint_left]
  intro number low high
  simp only [Range.numbers,Finset.mem_Ico] at low high
  omega

def sampleConfig (steps : UInt32) : Config := ⟨false,7,steps,100,10⟩

def sampleOps : List Op :=
  [.restart 1000 [] true,.inc 3 true,.restart 1001 [] true,.inc 10 true,.inc 1 true,.inc 2 true]

theorem issued_disjoint_crash : issued (sampleConfig 10) .empty sampleOps = [⟨10,3⟩,⟨30,10⟩,⟨40,1⟩,⟨41,2⟩] ∧
    (issued (sampleConfig 10) .empty sampleOps).Pairwise
      (fun first second => Disjoint first.numbers second.numbers) :=
  ⟨by decide,issued_disjoint (sampleConfig 10) (by decide) .empty sampleOps (by decide)⟩

/-- One `inc_sequence(1)` whose store succeeds; the second component is what the file
held before the last store. -/
def issueOne (config : Config) (state : State × SeqFile) (_ : Unit) : (State × SeqFile) × Nat :=
  let (agent,sequence) := incSequence config 1 true state.1
  ((agent,if storeDue config state.1 then state.1.sequenceFile else state.2),sequence.toNat)

def afterCalls (config : Config) (agent : State) (file : SeqFile) (calls : Nat) : State × SeqFile :=
  Run.final (issueOne config) (agent,file) (List.replicate calls ())

def numbers (config : Config) (agent : State) (file : SeqFile) (calls : Nat) : List Nat :=
  Run.outputs (issueOne config) (agent,file) (List.replicate calls ())

theorem afterCalls_succ {file : SeqFile} {calls : Nat} :
    afterCalls config agent file (calls+1) = (issueOne config (afterCalls config agent file calls) ()).1 := by
  simp only [afterCalls,List.replicate_succ',final_append,final_cons,final_nil]

theorem numbers_succ (agent : State) (file : SeqFile) (calls : Nat) :
    numbers config agent file (calls+1) = numbers config agent file calls ++
      [(issueOne config (afterCalls config agent file calls) ()).2] := by
  simp only [numbers,afterCalls,List.replicate_succ',outputs_append,outputs_cons,outputs_nil]

/-- The stores that `calls` calls have made: the test is made before the increment and is
strict, so that they are `steps+1` numbers apart. -/
def storesMade (config : Config) (calls : Nat) : Nat := (calls-1) / (config.steps.toNat+1)

def Holds (file : SeqFile) (sequence : Nat) : Prop :=
  ∃ block, file = .block block ∧ block.sequence.toNat = sequence

structure Journal (config : Config) (first : Nat) (file : SeqFile) (calls : Nat) (state : State × SeqFile) :
    Prop where
  counter : state.1.seqBlock.sequence.toNat = first + calls
  mark : state.1.sequenceStart.toNat = first + storesMade config calls * (config.steps.toNat+1)
  onDisk : Holds state.1.sequenceFile (first + storesMade config calls * (config.steps.toNat+1))
  original : storesMade config calls = 0 → state.2 = file
  previous : ∀ made, storesMade config calls = made+1 → Holds state.2 (first + made * (config.steps.toNat+1))

variable (calls : Nat)

theorem storesMade_succ :
    storesMade config (calls+1) = if config.steps.toNat <
      calls - storesMade config calls * (config.steps.toNat+1)
      then storesMade config calls + 1 else storesMade config calls := by
  unfold storesMade
  generalize config.steps.toNat = steps
  cases calls with
  | zero => simp
  | succ calls =>
    simp only [Nat.add_sub_cancel]
    have parts := Nat.div_add_mod calls (steps+1)
    have small : calls % (steps+1) < steps+1 := Nat.mod_lt _ (by omega)
    rw [Nat.mul_comm] at parts
    split
    · have full : calls+1 = (calls/(steps+1) + 1) * (steps+1) := by
        rw [Nat.add_mul]
        omega
      rw [full,Nat.mul_div_cancel _ (by omega)]
    · apply Nat.div_eq_of_lt_le
      · omega
      · rw [Nat.add_mul]
        omega

theorem storesMade_mul_le : storesMade config calls * (config.steps.toNat+1) ≤ calls :=
  (Nat.div_mul_le_self _ _).trans (Nat.sub_le _ _)

theorem le_storesMade_mul :
    calls ≤ storesMade config calls * (config.steps.toNat+1) + (config.steps.toNat+1) := by
  have parts := Nat.div_add_mod (calls-1) (config.steps.toNat+1)
  have small : (calls-1) % (config.steps.toNat+1) < config.steps.toNat+1 := Nat.mod_lt _ (by omega)
  rw [Nat.mul_comm] at parts
  unfold storesMade
  omega

variable {state : State × SeqFile}

theorem issueOne_cases : ∃ base, (storeDue config state.1 = false ∧ base = state ∨
        storeDue config state.1 = true ∧ base = ((storeSequence true state.1).1,state.1.sequenceFile)) ∧
      issueOne config state () = ((base.1.withSequence (takeSequence 1 state.1.seqBlock.sequence).2,base.2),
          (takeSequence 1 state.1.seqBlock.sequence).1.toNat) := by
  rcases incSequence_cases config 1 true state.1 with ⟨_,bad,_⟩ | ⟨base,⟨fresh,rfl⟩ | ⟨due,_,rfl⟩,eq⟩
  · cases bad
  · exact ⟨state,.inl ⟨fresh,rfl⟩,by simp [issueOne,eq,fresh]⟩
  · exact ⟨_,.inr ⟨due,rfl⟩,by simp [issueOne,eq,due]⟩

theorem issueOne_number (first : Nat) (file : SeqFile) (calls : Nat) (state : State × SeqFile)
    (pos : 0 < first) (journal : Journal config first file calls state) :
    (issueOne config state ()).2 = first + calls := by
  obtain ⟨base,_,eq⟩ := issueOne_cases config
  have nonzero : state.1.seqBlock.sequence ≠ 0 := by
    intro zero
    have counter := journal.counter
    simp only [zero,UInt32.reduceToNat] at counter
    omega
  rw [eq]
  simp only [takeSequence,nonzero]
  exact journal.counter

theorem issueOne_journal {first : Nat} {file : SeqFile} {calls : Nat}
    (pos : 0 < first) (journal : Journal config first file calls state) (fits : first + calls + 1 < 2^32) :
    Journal config first file (calls+1) (issueOne config state ()).1 := by
  obtain ⟨counter,mark,onDisk,original,prev⟩ := journal
  have behind := storesMade_mul_le config calls
  have due := storeDue_iff config state.1 (by omega)
  have lag : state.1.seqBlock.sequence.toNat - state.1.sequenceStart.toNat =
      calls - storesMade config calls * (config.steps.toNat+1) := by omega
  rw [lag] at due
  have made := storesMade_succ config calls
  obtain ⟨_,next⟩ := takeSequence_fits 1 state.1.seqBlock.sequence (by omega)
    (by rw [counter]; simpa using fits)
  have next : (takeSequence 1 state.1.seqBlock.sequence).2.toNat = first + (calls+1) := by
    rw [next,counter]
    rfl
  obtain ⟨base,⟨fresh,rfl⟩ | ⟨stored,rfl⟩,eq⟩ := issueOne_cases config
  · have early : ¬ config.steps.toNat < calls - storesMade config calls * (config.steps.toNat+1) := by
      rw [← due,fresh]
      exact Bool.false_ne_true
    rw [if_neg early] at made
    rw [eq]
    exact ⟨next,made ▸ mark,made ▸ onDisk,made ▸ original,made ▸ prev⟩
  · have late := due.mp stored
    rw [if_pos late] at made
    have caughtUp : state.1.seqBlock.sequence.toNat =
        first + storesMade config (calls+1) * (config.steps.toNat+1) := by
      have near := le_storesMade_mul config calls
      rw [made,Nat.add_mul]
      omega
    rw [eq]
    refine ⟨next,caughtUp,⟨_,rfl,caughtUp⟩,fun none => by omega,?_⟩
    intro before eq
    have same : before = storesMade config calls := by omega
    rw [same]
    exact onDisk

theorem journal_start
    (onDisk : agent.sequenceFile = .block agent.seqBlock)
    (start : agent.sequenceStart = agent.seqBlock.sequence) :
    Journal config agent.seqBlock.sequence.toNat file 0 (agent,file) := by
  have none : storesMade config 0 = 0 := by simp [storesMade]
  refine ⟨rfl,?_,⟨_,onDisk,?_⟩,fun _ => rfl,fun made bad => by omega⟩
  · simp [none,start]
  · simp [none]

theorem afterCalls_journal (agent : State) (calls : Nat) (pos : 0 < agent.seqBlock.sequence.toNat)
    (onDisk : agent.sequenceFile = .block agent.seqBlock)
    (start : agent.sequenceStart = agent.seqBlock.sequence)
    (fits : agent.seqBlock.sequence.toNat + calls < 2^32) :
    Journal config agent.seqBlock.sequence.toNat file calls (afterCalls config agent file calls) := by
  induction calls with
  | zero => exact journal_start config file onDisk start
  | succ calls ih =>
    rw [afterCalls_succ]
    exact issueOne_journal config pos (ih (by omega)) (by omega)

theorem numbers_eq (agent : State) (calls : Nat) (pos : 0 < agent.seqBlock.sequence.toNat)
    (onDisk : agent.sequenceFile = .block agent.seqBlock)
    (start : agent.sequenceStart = agent.seqBlock.sequence)
    (fits : agent.seqBlock.sequence.toNat + calls ≤ 2^32) :
    numbers config agent file calls = (List.range calls).map (agent.seqBlock.sequence.toNat + ·) := by
  induction calls with
  | zero => rfl
  | succ calls ih =>
    have journal := afterCalls_journal config file agent calls pos onDisk start (by omega)
    rw [numbers_succ,ih (by omega),issueOne_number config _ file calls _ pos journal,List.range_succ,
      List.map_append]
    rfl

theorem restart_up (now : TimeT) (replies : List (Option MessageHead)) (written : Bool)
    (file : SeqFile) (agent : State) (pos : 0 < config.steps.toNat) (fits : SkipFits config file)
    (started : restart config now replies written file = .up agent) :
    agent.sequenceFile = .block agent.seqBlock ∧ agent.sequenceStart = agent.seqBlock.sequence ∧
      firstSequence config file = some agent.seqBlock.sequence ∧ 0 < agent.seqBlock.sequence.toNat := by
  rcases restart_cases config with failed | ⟨found,up,onDisk,start,first⟩
  · rw [failed] at started
    cases started
  · rw [started] at up
    cases up
    have skipped := (firstSequence_toNat config file first fits).2
    exact ⟨onDisk,start,first,by omega⟩

theorem numbers_below_iff {agent next : State} {file kept : SeqFile} {calls : Nat}
    (old : numbers config agent file calls = (List.range calls).map (agent.seqBlock.sequence.toNat + ·))
    (new : ∀ more, next.seqBlock.sequence.toNat + more ≤ 2^32 →
      numbers config next kept more = (List.range more).map (next.seqBlock.sequence.toNat + ·)) :
    (∀ more, next.seqBlock.sequence.toNat + more ≤ 2^32 →
      ∀ first ∈ numbers config agent file calls, ∀ second ∈ numbers config next kept more, first < second) ↔
    calls = 0 ∨ agent.seqBlock.sequence.toNat + calls ≤ next.seqBlock.sequence.toNat := by
  have bounded := next.seqBlock.sequence.toNat_lt
  constructor
  · intro below
    cases calls with
    | zero => exact .inl rfl
    | succ calls =>
      have last : agent.seqBlock.sequence.toNat + calls ∈ numbers config agent file (calls+1) := by
        rw [old]
        exact List.mem_map.mpr ⟨calls,by simp,rfl⟩
      have first : next.seqBlock.sequence.toNat ∈ numbers config next kept 1 := by
        rw [new 1 (by omega)]
        simp
      have apart := below 1 (by omega) _ last _ first
      exact .inr (by omega)
  · intro apart more fits first hf second hs
    rw [old] at hf
    rw [new more fits] at hs
    obtain ⟨i,hi,rfl⟩ := List.mem_map.mp hf
    obtain ⟨j,_,rfl⟩ := List.mem_map.mp hs
    have hi := List.mem_range.mp hi
    omega

/-- After a crash that loses the last store, the numbers of the next process are above all
those of the last one exactly when fewer than `steps` of them were handed out since that
store, and it was not the store of the process start itself. -/
theorem lost_store_iff (config : Config) (positive : 0 < config.steps.toNat) (file : SeqFile)
    (now later : TimeT) (replies others : List (Option MessageHead)) (agent next : State) (calls : Nat)
    (fits : SkipFits config file) (started : restart config now replies true file = .up agent)
    (counted : agent.seqBlock.sequence.toNat + calls < 2^32)
    (kept : SkipFits config (afterCalls config agent file calls).2)
    (restarted : restart config later others true (afterCalls config agent file calls).2 = .up next) :
    (∀ more, next.seqBlock.sequence.toNat + more ≤ 2^32 →
      ∀ old ∈ numbers config agent file calls,
        ∀ new ∈ numbers config next (afterCalls config agent file calls).2 more,
        old < new) ↔
    calls = 0 ∨ config.steps.toNat + 1 < calls ∧ (calls-1) % (config.steps.toNat+1) + 2 ≤
      config.steps.toNat := by
  obtain ⟨onDisk,start,first,counting⟩ := restart_up config now replies true file agent positive fits started
  obtain ⟨onDisk',start',first',counting'⟩ :=
    restart_up config later others true _ next positive kept restarted
  rw [numbers_below_iff config
    (numbers_eq config file agent calls counting onDisk start (by omega))
    (fun more room => numbers_eq config _ next more counting' onDisk' start' room)]
  have journal := afterCalls_journal config file agent calls counting onDisk start counted
  have parts := Nat.div_add_mod (calls-1) (config.steps.toNat+1)
  rw [Nat.mul_comm] at parts
  change storesMade config calls * (config.steps.toNat+1) + _ = _ at parts
  cases made : storesMade config calls with
  | zero =>
    -- the lost store is the one of the start: the next process begins where the last one did
    have few : calls - 1 < config.steps.toNat+1 := by
      have small : (calls-1) % (config.steps.toNat+1) < config.steps.toNat+1 := Nat.mod_lt _ (by omega)
      rw [made] at parts
      omega
    rw [journal.original made,first] at first'
    have same : agent.seqBlock.sequence = next.seqBlock.sequence := Option.some.inj first'
    rw [same]
    omega
  | succ before =>
    obtain ⟨block,held,sequence⟩ := journal.previous before made
    rw [held] at kept first'
    have skipped := firstSequence_block config first' kept
    rw [made,Nat.add_mul] at parts
    omega

def sampleAgent : State := (restoreSequence (sampleConfig 2) [] true (.start .empty 1000)).1

def sampleRestart (calls : Nat) : State :=
  (restoreSequence (sampleConfig 2) [] true
    (.start (afterCalls (sampleConfig 2) sampleAgent .empty calls).2 2000)).1

theorem lost_store_survived : numbers (sampleConfig 2) sampleAgent .empty 4 = [2,3,4,5] ∧
    numbers (sampleConfig 2) (sampleRestart 4) .empty 2 = [6,7] ∧
    ((∀ more, (sampleRestart 4).seqBlock.sequence.toNat + more ≤ 2^32 →
      ∀ old ∈ numbers (sampleConfig 2) sampleAgent .empty 4,
        ∀ new ∈ numbers (sampleConfig 2) (sampleRestart 4)
          (afterCalls (sampleConfig 2) sampleAgent .empty 4).2 more,
          old < new) ↔ 4 = 0 ∨ (sampleConfig 2).steps.toNat + 1 < 4 ∧
        (4-1) % ((sampleConfig 2).steps.toNat+1) + 2 ≤ (sampleConfig 2).steps.toNat) :=
  ⟨by decide,by decide,lost_store_iff (sampleConfig 2) (by decide) .empty 1000 2000 [] []
    sampleAgent (sampleRestart 4) 4
    (by decide) rfl (by decide) (by decide) rfl⟩

theorem lost_store_repeats : numbers (sampleConfig 2) sampleAgent .empty 5 = [2,3,4,5,6] ∧
    ¬ (∀ old ∈ numbers (sampleConfig 2) sampleAgent .empty 5,
      ∀ new ∈ numbers (sampleConfig 2) (sampleRestart 5)
        (afterCalls (sampleConfig 2) sampleAgent .empty 5).2 1,
        old < new) := by
  decide

end Mooon.UniqId.Agent

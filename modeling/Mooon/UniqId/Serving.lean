import Mooon.UniqId.Uniqueness

/-! The label under which an agent with masters serves. Its guard looks at the lease and
at the I/O flag, never at the label, so the label has to be valid whenever the lease is
live. A start over a live lease and a `NOT_HOLD` answer during one break that. -/
namespace Mooon.UniqId.Agent
open Option

inductive Event where
  | restart (now : TimeT) (replies : List (Option MessageHead)) (written : Bool)
  | wake (now : TimeT)
  | datagram (message : MessageHead) (written : Bool)

structure Answer where
  label : UInt32
  reply : MessageHead
deriving DecidableEq

-- A process that dies in `get_uniq_id` has already stored its counter.
def act (config : Config) (localtime : TimeT → Option Tm) : Machine → Event → Machine × Option Answer
  | machine, .restart now replies written => (restart config now replies written machine.file,none)
  | .up agent, .wake now => (.up (wake config now agent).1,none)
  | .up agent, .datagram message written =>
    match receive config localtime message written agent with
    | none => (.down (incSequence config 1 written agent).1.sequenceFile,none)
    | some (next,sent) => (.up next,sent.reply.map fun reply => ⟨agent.seqBlock.label,reply⟩)
  | .down file, _ => (.down file,none)

def answers (config : Config) (localtime : TimeT → Option Tm) (file : SeqFile)
    (events : List Event) : List Answer :=
  (Run.outputs (act config localtime) (.down file) events).reduceOption

def Answer.Valid (answer : Answer) : Prop :=
  answer.reply.type = responseError ∨ ValidLabel answer.label.toNat ∧
    (answer.reply.type = responseUniqSeq ∨
      (answer.reply.type = responseLabel ∨ answer.reply.type = responseLabelAndSeq) ∧
        answer.reply.value1 = answer.label ∨
      answer.reply.type = responseUniqId ∧ (labelField answer.reply.value3).toNat = answer.label.toNat)

instance (answer : Answer) : Decidable answer.Valid := inferInstanceAs (Decidable (_ ∨ _))

def FromMaster : Event → Prop
  | .datagram message _ => message.type = responseLabel → ValidLabel message.value1.toNat
  | _ => True

instance : (event : Event) → Decidable (FromMaster event)
  | .datagram _ _ => inferInstanceAs (Decidable (_ → _))
  | .restart _ _ _ | .wake _ => inferInstanceAs (Decidable True)

def LiveLease (config : Config) (now : TimeT) : SeqFile → Bool
  | .block block => block.validMagic &&
    !labelExpired config {State.start (.block block) now with seqBlock := block}
  | _ => false

def Leased (config : Config) (agent : State) : Prop :=
  refusal config agent ≠ none ∨ ValidLabel agent.seqBlock.label.toNat

instance (config : Config) (agent : State) : Decidable (Leased config agent) :=
  inferInstanceAs (Decidable (_ ∨ _))

/-- The steps that keep the label with the lease: no start over a live lease, no clock
that is set back into an expired one, and no `NOT_HOLD` to an agent that still serves. -/
def KeepsLabel (config : Config) : Machine → Event → Prop
  | machine, .restart now _ _ => LiveLease config now machine.file = false
  | .up agent, .wake now => Leased config {agent with currentTime := now}
  | .up agent, .datagram message _ =>
    message.type = responseError → message.value1 = errorLabelNotHold → refusal config agent ≠ none
  | .down _, _ => True

instance (config : Config) : (machine : Machine) → (event : Event) →
    Decidable (KeepsLabel config machine event)
  | .up _, .restart _ _ _ | .down _, .restart _ _ _ => inferInstanceAs (Decidable (_ = _))
  | .up _, .wake _ => inferInstanceAs (Decidable (_ ∨ _))
  | .down _, .wake _ => inferInstanceAs (Decidable True)
  | .up _, .datagram _ _ => inferInstanceAs (Decidable (_ → _ → _))
  | .down _, .datagram _ _ => inferInstanceAs (Decidable True)

structure SameLease (before after : State) : Prop where
  label : after.seqBlock.label = before.seqBlock.label
  timestamp : after.seqBlock.timestamp = before.seqBlock.timestamp
  currentTime : after.currentTime = before.currentTime
  ioError : before.ioError = true → after.ioError = true

variable {config : Config} {agent : State}

theorem refusal_iff : refusal config agent ≠ none ↔
    labelExpired config agent = true ∨ agent.ioError = true := by
  unfold refusal
  split_ifs with expired failed
  · simp [expired]
  · simp [failed]
  · simp [expired,failed]

theorem SameLease.trans {first second third : State} (early : SameLease first second)
    (late : SameLease second third) : SameLease first third :=
  ⟨late.label.trans early.label,late.timestamp.trans early.timestamp,late.currentTime.trans early.currentTime,
    fun failed => late.ioError (early.ioError failed)⟩

theorem SameLease.leased {before after : State} (same : SameLease before after)
    (leased : Leased config before) : Leased config after := by
  rcases leased with refused | valid
  · apply Or.inl
    rw [refusal_iff] at refused ⊢
    rcases refused with expired | failed
    · left
      unfold labelExpired at expired ⊢
      rw [same.timestamp,same.currentTime]
      exact expired
    · exact Or.inr (same.ioError failed)
  · apply Or.inr
    rw [same.label]
    exact valid

theorem incSequence_sameLease (config : Config) (deta : UInt16) (written : Bool) (agent : State) :
    SameLease agent (incSequence config deta written agent).1 := by
  rcases incSequence_cases config deta written agent with ⟨_,_,eq⟩ | ⟨base,⟨_,rfl⟩ | ⟨_,_,rfl⟩,eq⟩
  · rw [eq]
    exact ⟨rfl,rfl,rfl,fun _ => rfl⟩
  · rw [eq]
    exact ⟨rfl,rfl,rfl,id⟩
  · rw [eq]
    exact ⟨rfl,rfl,rfl,id⟩

variable {localtime : TimeT → Option Tm} {written : Bool} {next : State} {req : MessageHead}

theorem getUniqId_sameLease {value : UInt64}
    (made : getUniqId config localtime req written agent = some (next,value)) : SameLease agent next := by
  have counted := incSequence_sameLease config 1 written agent
  unfold getUniqId at made
  dsimp only at made
  split at made
  · cases made
    exact counted
  · obtain ⟨fresh,refreshed,res⟩ := map_eq_some_iff.mp made
    have frame := refreshTime_frame _ _ _ _ refreshed
    have refreshed : SameLease (incSequence config 1 written agent).1 fresh := by
      rw [frame]
      exact ⟨rfl,rfl,rfl,id⟩
    split at res
    · cases res
      exact counted.trans refreshed
    · cases res
      exact (counted.trans refreshed).trans ⟨rfl,rfl,rfl,id⟩

theorem prepareResponseGetUniqId_sameLease (config : Config) (localtime : TimeT → Option Tm)
    (req : MessageHead) (written : Bool) (agent next : State) (res : Except UInt32 MessageHead)
    (ready : prepareResponseGetUniqId config localtime req written agent = some (next,res)) :
    SameLease agent next := by
  unfold prepareResponseGetUniqId at ready
  split at ready
  · cases ready
    exact ⟨rfl,rfl,rfl,id⟩
  · obtain ⟨⟨after,value⟩,made,same⟩ := map_eq_some_iff.mp ready
    have kept := getUniqId_sameLease made
    dsimp only at same
    split_ifs at same <;> (cases same; exact kept)

theorem prepareResponseGetUniqSeq_sameLease (config : Config) (req : MessageHead) (written : Bool)
    (agent : State) : SameLease agent (prepareResponseGetUniqSeq config req written agent).1 := by
  unfold prepareResponseGetUniqSeq
  split
  · exact ⟨rfl,rfl,rfl,id⟩
  · dsimp only
    split_ifs <;> exact incSequence_sameLease config _ written agent

theorem prepareResponseGetLabelAndSeq_sameLease (config : Config) (req : MessageHead) (written : Bool)
    (agent : State) : SameLease agent (prepareResponseGetLabelAndSeq config req written agent).1 := by
  unfold prepareResponseGetLabelAndSeq
  split
  · exact ⟨rfl,rfl,rfl,id⟩
  · dsimp only
    split_ifs <;> exact incSequence_sameLease config _ written agent

theorem wake_sameLease (config : Config) (now : TimeT) (agent : State) :
    SameLease {agent with currentTime := now} (wake config now agent).1 := by
  unfold wake rentLabel
  dsimp only
  split_ifs <;> exact ⟨rfl,rfl,rfl,id⟩

variable {label : UInt32}

theorem answer_valid_error {errcode : UInt32} :
    Answer.Valid ⟨label,prepareResponseError req errcode⟩ := .inl rfl

theorem labelField_composed (valid : ValidLabel label.toNat) :
    (BitVec.ofNat 8 label.toUInt8.toNat).toNat = label.toNat := by
  have bound : label.toNat ≤ 254 := valid.2
  rw [BitVec.toNat_ofNat,UInt32.toNat_toUInt8]
  omega

theorem receive_valid (config : Config) (localtime : TimeT → Option Tm) (msg : MessageHead) (written : Bool)
    (agent next : State) (sent : Sent) (reply : MessageHead) (leased : Leased config agent)
    (got : receive config localtime msg written agent = some (next,sent))
    (replied : sent.reply = some reply) : Answer.Valid ⟨agent.seqBlock.label,reply⟩ := by
  have held : refusal config {agent with requestBuffer := msg} = none →
      ValidLabel agent.seqBlock.label.toNat :=
    fun served => leased.resolve_left (not_not.mpr served)
  cases receive_received config localtime msg written agent next sent got with
  | label type =>
    rcases answer_reply msg reply _ replied with ok | error
    · obtain ⟨served,rfl⟩ := prepareResponseGetLabel_ok _ _ _ _ ok
      exact .inr ⟨held served,.inr (.inl ⟨.inl rfl,rfl⟩)⟩
    · exact .inl error
  | uniqId next res type ready =>
    rcases answer_reply msg reply res replied with rfl | error
    · obtain ⟨served,uniqId,made,zero,one,rfl⟩ := prepareResponseGetUniqId_ok _ _ _ _ _ _ _ ready
      obtain ⟨id,value,_,_,_,_,_,label⟩ := getUniqId_issue _ _ _ _ _ _ _ made zero one
      refine .inr ⟨held served,.inr (.inr ⟨rfl,?_⟩)⟩
      change (labelField uniqId).toNat = _
      rw [value,labelField_value,label]
      exact labelField_composed (held served)
    · exact .inl error
  | uniqSeq type =>
    rcases answer_reply msg reply _ replied with ok | error
    · obtain ⟨served,seq,rfl⟩ := prepareResponseGetUniqSeq_ok _ _ _ _ _ ok
      exact .inr ⟨held served,.inl rfl⟩
    · exact .inl error
  | labelAndSeq type =>
    rcases answer_reply msg reply _ replied with ok | error
    · obtain ⟨served,seq,rfl⟩ := prepareResponseGetLabelAndSeq_ok _ _ _ _ _ ok
      refine .inr ⟨held served,.inr (.inl ⟨.inr rfl,?_⟩)⟩
      exact (incSequence_sameLease config _ written {agent with requestBuffer := msg}).label
    · exact .inl error
  | error type checked | leased type checked | dropped type illegal => cases replied
  | unknown =>
    rw [← some.inj replied]
    exact answer_valid_error

theorem onResponseLabel_label (resp : MessageHead) (written : Bool) (agent : State) :
    (onResponseLabel resp written agent).seqBlock.label = resp.value1 := by
  unfold onResponseLabel
  dsimp only
  split_ifs
  · cases written <;> rfl
  · rfl

theorem receive_leased {msg : MessageHead}
    {sent : Sent} (leased : Leased config agent) (master : FromMaster (.datagram msg written))
    (keeps : KeepsLabel config (.up agent) (.datagram msg written))
    (got : receive config localtime msg written agent = some (next,sent)) : Leased config next := by
  have buffered : Leased config {agent with requestBuffer := msg} := leased
  cases receive_received config localtime msg written agent next sent got with
  | label type => exact buffered
  | uniqId next res type ready =>
    exact (prepareResponseGetUniqId_sameLease _ _ _ _ _ _ _ ready).leased buffered
  | uniqSeq type => exact (prepareResponseGetUniqSeq_sameLease _ _ _ _).leased buffered
  | labelAndSeq type => exact (prepareResponseGetLabelAndSeq_sameLease _ _ _ _).leased buffered
  | error type checked =>
    unfold onResponseError
    split
    · rename_i notHold
      unfold rentLabel
      split <;> exact Or.inl (keeps type notHold)
    · exact buffered
  | leased type checked =>
    apply Or.inr
    rw [onResponseLabel_label]
    exact master type
  | dropped type illegal | unknown => exact buffered

theorem restoreRead_masters (config : Config) (now : TimeT) (file : SeqFile)
    (masters : config.masterMode = true) : restoreRead config (.start file now) = .failed ∨
    (∃ found, restoreRead config (.start file now) = .rent found ∧ found.currentTime = now ∧
      (found.seqBlock.label = 0 ∨ labelExpired config found = true)) ∨
    ∃ found, restoreRead config (.start file now) = .known found 0 ∧ found.currentTime = now ∧
      LiveLease config now file = true := by
  cases file with
  | empty =>
    refine .inr (.inl ⟨.start .empty now,?_,rfl,.inl rfl⟩)
    simp [restoreRead,State.start,masters]
  | torn => exact .inl rfl
  | block block =>
    cases magic : block.validMagic with
    | false => exact .inl (by simp [restoreRead,State.start,magic])
    | true =>
      cases expired : labelExpired config {State.start (.block block) now with seqBlock := block} with
      | true =>
        simp only [State.start] at expired
        simp [restoreRead,State.start,magic,masters,expired]
      | false =>
        refine .inr (.inr ⟨{State.start (.block block) now with seqBlock := block},?_,rfl,?_⟩)
        · simp only [State.start] at expired
          simp [restoreRead,State.start,magic,masters,expired]
        · simp only [LiveLease,magic,expired]
          rfl

theorem restart_leased {now : TimeT} {replies : List (Option MessageHead)}
    {file : SeqFile} (masters : config.masterMode = true) (free : LiveLease config now file = false)
    (started : restart config now replies written file = .up agent) :
    ValidLabel agent.seqBlock.label.toNat := by
  unfold restart restoreSequence at started
  rcases restoreRead_masters config now file masters with failed | ⟨found,rent,_⟩ | ⟨found,_,_,live⟩
  · rw [failed] at started
    cases started
  · rw [rent] at started
    dsimp only at started
    cases rented : rentLabelSync 2 replies found with
    | mk renting label =>
      rw [rented] at started
      cases label with
      | none => cases started
      | some label =>
        simp only [restoreRented] at started
        by_cases valid : ValidLabel label.toNat
        · rw [if_pos valid] at started
          cases written with
          | false => cases started
          | true =>
            cases started
            exact valid
        · rw [if_neg valid] at started
          cases started
  · rw [free] at live
    cases live

def Sound (config : Config) (machine : Machine) : Prop := ∀ agent, machine = .up agent → Leased config agent

theorem act_sound {machine : Machine} {event : Event}
    (masters : config.masterMode = true) (sound : Sound config machine) (master : FromMaster event)
    (keeps : KeepsLabel config machine event) : Sound config (act config localtime machine event).1 ∧
      ∀ answer ∈ (act config localtime machine event).2, answer.Valid := by
  cases event with
  | restart now replies written =>
    have free : LiveLease config now machine.file = false := by cases machine <;> exact keeps
    have started : (act config localtime machine (.restart now replies written)) =
        (restart config now replies written machine.file,none) := by cases machine <;> rfl
    rw [started]
    refine ⟨?_,by simp⟩
    intro agent up
    exact .inr (restart_leased masters free up)
  | wake now =>
    cases machine with
    | down file => exact ⟨sound,by simp [act]⟩
    | up agent =>
      refine ⟨?_,by simp [act]⟩
      intro next up
      cases up
      exact (wake_sameLease config now agent).leased keeps
  | datagram msg written =>
    cases machine with
    | down file => exact ⟨sound,by simp [act]⟩
    | up agent =>
      have leased := sound agent rfl
      cases got : receive config localtime msg written agent with
      | none =>
        simp only [act,got]
        refine ⟨?_,by simp⟩
        intro next up
        cases up
      | some res =>
        obtain ⟨next,sent⟩ := res
        simp only [act,got]
        refine ⟨?_,?_⟩
        · intro same up
          cases up
          exact receive_leased leased master keeps got
        · intro answer mem
          obtain ⟨reply,replied,rfl⟩ := map_eq_some_iff.mp mem
          exact receive_valid config localtime msg written agent next sent reply leased got replied

/-- In a run whose steps keep the label with the lease, every answer is an error or
carries the valid label of its agent. -/
theorem answers_valid (config : Config) (localtime : TimeT → Option Tm) (file : SeqFile) (events : List Event)
    (masters : config.masterMode = true) (master : ∀ event ∈ events, FromMaster event)
    (keeps : Run.Meets (KeepsLabel config) (act config localtime) (.down file) events) :
    ∀ answer ∈ answers config localtime file events, answer.Valid := by
  have met := Run.meets_and FromMaster (Machine.down file) events master keeps
  intro answer member
  obtain ⟨_,found,rfl⟩ := List.mem_filterMap.mp member
  refine Run.outputs_all (Sound config) (fun output => ∀ answer ∈ output, answer.Valid) ?_ ?_
    (.down file) events ?_ met
    _ found answer rfl
  · intro machine event sound allowed
    exact (act_sound masters sound allowed.1 allowed.2).1
  · intro machine event sound allowed
    exact (act_sound masters sound allowed.1 allowed.2).2
  · intro agent up
    cases up

def sampleMaster : Config := ⟨true,0,10,100,10⟩

def sampleRented (label : UInt32) : List (Option MessageHead) :=
  [some (MessageHead.updateMagic ⟨messageHeadSize,responseLabel,majorVersion,minorVersion,0,0,label,0,0⟩)]

theorem answers_valid_rented : (answers sampleMaster (fun _ => none) .empty
      [.restart 1000 (sampleRented 5) true,.datagram (request requestLabel 0 0) true]).map
        Answer.label = [5] ∧
    ∀ answer ∈ answers sampleMaster (fun _ => none) .empty
      [.restart 1000 (sampleRented 5) true,.datagram (request requestLabel 0 0) true], answer.Valid :=
  ⟨by decide,answers_valid sampleMaster (fun _ => none) .empty _ rfl (by decide) (by decide)⟩

theorem answers_unlabelled : ¬ ∀ answer ∈ answers sampleMaster (fun _ => none) .empty
    [.restart 1000 (sampleRented 5) true,.restart 1001 [] true,.datagram (request requestLabel 0 0) true],
      answer.Valid := by
  decide

end Mooon.UniqId.Agent

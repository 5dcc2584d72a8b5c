import Mooon.UniqId.Protocol

/-! The agent of the unique-id service, `CUniqAgent`: its sequence file, the
counter, the ids it composes and the messages it answers. The environment gives
each step whether its `pwrite` wrote the whole block, the clock and the datagrams;
`none` as a result stands for the death of the process (a time that `localtime`
refuses is read through a null pointer), `none` as a datagram for a timeout, an
exception or a datagram of another size. `masterMode` says that `master_nodes` is
not empty. The master that a request goes to and the log are left out. -/
namespace Mooon.UniqId.Agent

structure SeqBlock where
  version : UInt32
  label : UInt32
  sequence : UInt32
  timestamp : UInt64
  magic : UInt64
deriving DecidableEq, Repr

def SeqBlock.empty : SeqBlock := ⟨1,0,0,0,0⟩

section
variable (block : SeqBlock) (config : Config) (agent : State) (localtime : TimeT → Option Tm)
  (request : MessageHead)

def SeqBlock.updateLabel (label : UInt32) : SeqBlock := {block with label := label}

def SeqBlock.calcMagic : UInt64 :=
  let sum := (block.sequence + block.label + block.version).toUInt64
  if sum ≤ block.timestamp then block.timestamp - sum else sum - block.timestamp

def SeqBlock.updateMagic : SeqBlock := {block with magic := block.calcMagic}

def SeqBlock.validMagic : Bool := block.magic == block.calcMagic

/-- What `pread` finds at the start of the sequence file; `torn` is any other size. -/
inductive SeqFile where
  | empty
  | torn
  | block (block : SeqBlock)
deriving DecidableEq, Repr

structure Config where
  masterMode : Bool
  label : UInt8
  steps : UInt32
  expire : UInt32
  interval : UInt32
deriving DecidableEq, Repr

/-- The members of `CUniqAgent` with the static variables of `get_uniq_id`, and the
file behind `_sequence_fd`. -/
structure State where
  echo : UInt32
  sequenceStart : UInt32
  seqBlock : SeqBlock
  sequenceFile : SeqFile
  currentTime : TimeT
  lastRentTime : TimeT
  ioError : Bool
  oldSeq : UInt32
  oldHour : Int
  oldDay : Int
  oldMonth : Int
  oldYear : Int
  oldTm : Tm
  oldTime : TimeT
  requestBuffer : MessageHead
deriving DecidableEq, Repr

def State.start (file : SeqFile) (now : TimeT) : State where
  echo := 0
  sequenceStart := 0
  seqBlock := .empty
  sequenceFile := file
  currentTime := now
  lastRentTime := 0
  ioError := false
  oldSeq := 0
  oldHour := -1
  oldDay := -1
  oldMonth := -1
  oldYear := -1
  oldTm := ⟨0,0,0,0⟩
  oldTime := 0
  requestBuffer := ⟨0,0,0,0,0,0,0,0,0⟩

def labelExpired : Bool :=
  config.masterMode &&
    decide ((config.expire.toNat : Int) < agent.currentTime.toInt - agent.seqBlock.timestamp.toInt64.toInt)

def storeSequence (written : Bool) (agent : State) : State × Bool :=
  let agent := {agent with seqBlock := agent.seqBlock.updateMagic}
  if written then
    ({agent with sequenceFile := .block agent.seqBlock, sequenceStart := agent.seqBlock.sequence},true)
  else ({agent with ioError := true},false)

def storeDue : Bool :=
  agent.seqBlock.sequence < agent.sequenceStart ||
    config.steps < agent.seqBlock.sequence - agent.sequenceStart

/-- The numbers taken from the counter: the first of them, and the counter after them.
Zero is skipped for a single number, since it is returned for an error. -/
def takeSequence (deta : UInt16) (sequence : UInt32) : UInt32 × UInt32 :=
  if deta ≤ 1 then
    if sequence = 0 then (sequence+1,sequence+1+1) else (sequence,sequence+1)
  else if sequence < sequence + deta.toUInt32 then (sequence,sequence+deta.toUInt32)
  else (1,1+deta.toUInt32)

def incSequence (deta : UInt16) (written : Bool) (agent : State) : State × UInt32 :=
  let (agent,stored) := if storeDue config agent then storeSequence written agent else (agent,true)
  if stored then
    let (sequence,next) := takeSequence deta agent.seqBlock.sequence
    ({agent with seqBlock := {agent.seqBlock with sequence := next}},sequence)
  else (agent,0)

def refreshTime (current : TimeT) (agent : State) : Option State :=
  if 30 < current.toInt - agent.oldTime.toInt then
    (localtime current).map fun now => {agent with oldTm := now, oldTime := current}
  else some agent

def composeId (seq : UInt32) (agent : State) : UniqID where
  user := BitVec.ofNat 6 request.value1.toUInt8.toNat
  label := BitVec.ofNat 8 agent.seqBlock.label.toUInt8.toNat
  year := BitVec.ofInt 7 (agent.oldTm.tmYear + 1900 - baseYear)
  month := BitVec.ofInt 4 (agent.oldTm.tmMon + 1)
  day := BitVec.ofInt 5 agent.oldTm.tmMday
  hour := BitVec.ofInt 5 agent.oldTm.tmHour
  seq := BitVec.ofNat 29 seq.toNat

def overflowed (id : UniqID) (seq : UInt32) (agent : State) : Bool :=
  seq < agent.oldSeq && agent.oldHour == id.hour.toNat && agent.oldDay == id.day.toNat &&
    agent.oldMonth == id.month.toNat && agent.oldYear == id.year.toNat

def getUniqId (written : Bool)
    (agent : State) : Option (State × UInt64) :=
  let (agent,seq) := incSequence config 1 written agent
  if seq = 0 then some (agent,0)
  else
    let current := if request.value3.toInt64 = 0 then agent.currentTime else request.value3.toInt64
    (refreshTime localtime current agent).map fun agent =>
      let id := composeId request seq agent
      if overflowed id seq agent then (agent,1)
      else ({agent with
        oldSeq := seq
        oldHour := id.hour.toNat
        oldDay := id.day.toNat
        oldMonth := id.month.toNat
        oldYear := id.year.toNat},id.value)

def refusal : Option UInt32 :=
  if labelExpired config agent then some errorLabelExpired
  else if agent.ioError then some errorStoreSeq
  else none

def prepareResponseGetLabel (agent : State) : Except UInt32 MessageHead :=
  match refusal config agent with
  | some errcode => .error errcode
  | none => .ok (response responseLabel request agent.seqBlock.label 0 0)

def prepareResponseGetUniqId (written : Bool) (agent : State) : Option (State × Except UInt32 MessageHead) :=
  match refusal config agent with
  | some errcode => some (agent,.error errcode)
  | none => (getUniqId config localtime request written agent).map fun (agent,uniqId) =>
    if uniqId = 0 then (agent,.error errorStoreSeq)
    else if uniqId = 1 then (agent,.error errorOverflow)
    else (agent,.ok (response responseUniqId request 0 0 uniqId))

def prepareResponseGetUniqSeq (written : Bool) (agent : State) :
    State × Except UInt32 MessageHead :=
  match refusal config agent with
  | some errcode => (agent,.error errcode)
  | none =>
    let (agent,seq) := incSequence config request.value1.toUInt16 written agent
    if seq = 0 then (agent,.error errorStoreSeq)
    else (agent,.ok (response responseUniqSeq request seq 0 0))

def prepareResponseGetLabelAndSeq (written : Bool) (agent : State) :
    State × Except UInt32 MessageHead :=
  match refusal config agent with
  | some errcode => (agent,.error errcode)
  | none =>
    let (agent,seq) := incSequence config request.value1.toUInt16 written agent
    if seq = 0 then (agent,.error errorStoreSeq)
    else (agent,.ok (response responseLabelAndSeq request agent.seqBlock.label seq 0))

end

variable (config : Config) (request reply : MessageHead) (agent : State)

theorem prepareResponseGetLabel_ok (ready : prepareResponseGetLabel config request agent = .ok reply) :
    refusal config agent = none ∧ reply = response responseLabel request agent.seqBlock.label 0 0 := by
  unfold prepareResponseGetLabel at ready
  split at ready
  · cases ready
  · rename_i served
    exact ⟨served,(Except.ok.inj ready).symm⟩

variable (localtime : TimeT → Option Tm)

theorem prepareResponseGetUniqId_ok (request : MessageHead)
    (written : Bool) (agent next : State) (reply : MessageHead)
    (ready : prepareResponseGetUniqId config localtime request written agent = some (next,.ok reply)) :
    refusal config agent = none ∧ ∃ uniqId, getUniqId config localtime request written agent =
      some (next,uniqId) ∧
      uniqId ≠ 0 ∧ uniqId ≠ 1 ∧ reply = response responseUniqId request 0 0 uniqId := by
  unfold prepareResponseGetUniqId at ready
  split at ready
  · cases ready
  · rename_i served
    obtain ⟨⟨after,uniqId⟩,made,res⟩ := Option.map_eq_some_iff.mp ready
    dsimp only at res
    split_ifs at res with zero one
    · cases res
    · cases res
    · cases res
      exact ⟨served,uniqId,made,zero,one,rfl⟩

variable (written : Bool)

theorem prepareResponseGetUniqSeq_ok (agent : State)
    (ready : (prepareResponseGetUniqSeq config request written agent).2 = .ok reply) :
    refusal config agent = none ∧ ∃ seq, reply = response responseUniqSeq request seq 0 0 := by
  unfold prepareResponseGetUniqSeq at ready
  split at ready
  · cases ready
  · rename_i served
    dsimp only at ready
    split_ifs at ready
    exact ⟨served,_,(Except.ok.inj ready).symm⟩

theorem prepareResponseGetLabelAndSeq_ok (agent : State)
    (ready : (prepareResponseGetLabelAndSeq config request written agent).2 = .ok reply) :
    refusal config agent = none ∧ ∃ seq, reply = response responseLabelAndSeq request
      (incSequence config request.value1.toUInt16 written agent).1.seqBlock.label seq 0 := by
  unfold prepareResponseGetLabelAndSeq at ready
  split at ready
  · cases ready
  · rename_i served
    dsimp only at ready
    split_ifs at ready
    exact ⟨served,_,(Except.ok.inj ready).symm⟩

def rentRequest (agent : State) : State × MessageHead :=
  let request := MessageHead.updateMagic {agent.requestBuffer with
    len := messageHeadSize
    type := requestLabel
    majorVer := majorVersion
    minorVer := minorVersion
    echo := agent.echo
    value1 := agent.seqBlock.label
    value2 := 0}
  ({agent with echo := agent.echo + 1, requestBuffer := request},request)

inductive LabelReply where
  | label (label : UInt32)
  | retry
  | failed
deriving DecidableEq, Repr

def receiveLabel (agent : State) : Option MessageHead → State × LabelReply
  | none => (agent,.failed)
  | some reply =>
    if reply.type = responseError then
      if reply.value1 ≠ errorLabelNotHold then (agent,.failed)
      else ({agent with seqBlock := agent.seqBlock.updateLabel 0},.retry)
    else if reply.type = responseLabel ∧ reply.echo = agent.echo - 1 then
      if 0 < reply.value1 then
        ({agent with seqBlock := {agent.seqBlock with timestamp := agent.currentTime.toUInt64}},
          .label reply.value1)
      else (agent,.failed)
    else (agent,.failed)

def rentLabelSync : Nat → List (Option MessageHead) → State → State × Option UInt32
  | 0, _, agent => (agent,none)
  | rounds+1, replies, agent =>
    match receiveLabel (rentRequest agent).1 replies.head?.join with
    | (agent,.label label) => (agent,some label)
    | (agent,.retry) => rentLabelSync rounds replies.tail agent
    | (agent,.failed) => (agent,none)

def rentLabel (config : Config) (agent : State) : State × Option MessageHead :=
  if config.masterMode then
    let (agent,request) := rentRequest agent
    (agent,some request)
  else (agent,none)

inductive Restore where
  | failed
  | rent (agent : State)
  | known (agent : State) (label : UInt32)
deriving DecidableEq, Repr

def restoreRead (config : Config) (agent : State) : Restore :=
  match agent.sequenceFile with
  | .empty =>
    if config.masterMode then .rent agent
    else if ValidLabel config.label.toNat then .known agent config.label.toUInt32 else .failed
  | .torn => .failed
  | .block block =>
    let agent := {agent with seqBlock := block}
    if !block.validMagic then .failed
    else if !config.masterMode then .known agent config.label.toUInt32
    else if labelExpired config agent then .rent agent
    else .known agent 0

def restoreStart (config : Config) (agent : State) : UInt32 :=
  match agent.sequenceFile with
  | .block _ => agent.seqBlock.sequence + 2 * config.steps
  | _ => config.steps

def restoreStore (config : Config) (label : UInt32) (written : Bool) (agent : State) : State × Bool :=
  let start := restoreStart config agent
  storeSequence written {agent with
    sequenceStart := start
    seqBlock := {agent.seqBlock with sequence := start, label := label}}

def restoreRented (config : Config) (label : UInt32) (written : Bool) (agent : State) : State × Bool :=
  if ValidLabel label.toNat then restoreStore config label written agent else (agent,false)

def restoreSequence (config : Config) (replies : List (Option MessageHead)) (written : Bool) (agent : State) :
    State × Bool :=
  match restoreRead config agent with
  | .failed => (agent,false)
  | .known agent label => restoreStore config label written agent
  | .rent agent =>
    match rentLabelSync 2 replies agent with
    | (agent,none) => (agent,false)
    | (agent,some label) => restoreRented config label written agent

def wake (config : Config) (now : TimeT) (agent : State) : State × Option MessageHead :=
  let agent := {agent with currentTime := now}
  if (config.interval.toNat : Int) < now.toInt - agent.lastRentTime.toInt then
    let (agent,request) := rentLabel config agent
    ({agent with lastRentTime := now},request)
  else (agent,none)

def onResponseError (config : Config) (response : MessageHead) (agent : State) : State × Option MessageHead :=
  if response.value1 = errorLabelNotHold then
    rentLabel config {agent with seqBlock := agent.seqBlock.updateLabel 0}
  else (agent,none)

def onResponseLabel (response : MessageHead) (written : Bool) (agent : State) : State :=
  let oldLabel := agent.seqBlock.label
  let agent := {agent with seqBlock := {agent.seqBlock with
    label := response.value1
    timestamp := agent.currentTime.toUInt64}}
  if oldLabel ≠ agent.seqBlock.label then (storeSequence written agent).1 else agent

structure Sent where
  reply : Option MessageHead
  toMaster : Option MessageHead
deriving DecidableEq, Repr

def Sent.answer (request : MessageHead) : Except UInt32 MessageHead → Sent
  | .ok response => ⟨some response,none⟩
  | .error errcode => ⟨some (prepareResponseError request errcode),none⟩

/-- One received datagram of the right size. A wrong checksum is only logged, except on
the responses of a master, which are then dropped. -/
def receive (config : Config) (localtime : TimeT → Option Tm) (message : MessageHead) (written : Bool)
    (agent : State) : Option (State × Sent) :=
  let agent := {agent with requestBuffer := message}
  if message.type = requestLabel then
    some (agent,.answer message (prepareResponseGetLabel config message agent))
  else if message.type = requestUniqId then
    (prepareResponseGetUniqId config localtime message written agent).map fun (agent,result) =>
      (agent,.answer message result)
  else if message.type = requestUniqSeq then
    let (agent,result) := prepareResponseGetUniqSeq config message written agent
    some (agent,.answer message result)
  else if message.type = requestLabelAndSeq then
    let (agent,result) := prepareResponseGetLabelAndSeq config message written agent
    some (agent,.answer message result)
  else if message.type = responseError then
    if message.calcMagic ≠ message.magic then some (agent,⟨none,none⟩)
    else
      let (agent,request) := onResponseError config message agent
      some (agent,⟨none,request⟩)
  else if message.type = responseLabel then
    if message.calcMagic ≠ message.magic then some (agent,⟨none,none⟩)
    else some (onResponseLabel message written agent,⟨none,none⟩)
  else some (agent,⟨some (prepareResponseError message errorInvalidType),none⟩)

/-- Everything one datagram can do; `agent` has it in its request buffer. -/
inductive Received (config : Config) (localtime : TimeT → Option Tm) (message : MessageHead) (written : Bool)
    (agent : State) : State → Sent → Prop
  | label (type : message.type = requestLabel) :
    Received config localtime message written agent agent
      (.answer message (prepareResponseGetLabel config message agent))
  | uniqId (next : State) (result : Except UInt32 MessageHead) (type : message.type = requestUniqId)
    (prepared : prepareResponseGetUniqId config localtime message written agent = some (next,result)) :
    Received config localtime message written agent next (.answer message result)
  | uniqSeq (type : message.type = requestUniqSeq) :
    Received config localtime message written agent (prepareResponseGetUniqSeq config message written agent).1
      (.answer message (prepareResponseGetUniqSeq config message written agent).2)
  | labelAndSeq (type : message.type = requestLabelAndSeq) :
    Received config localtime message written agent
      (prepareResponseGetLabelAndSeq config message written agent).1
      (.answer message (prepareResponseGetLabelAndSeq config message written agent).2)
  | error (type : message.type = responseError) (checked : message.calcMagic = message.magic) :
    Received config localtime message written agent (onResponseError config message agent).1
      ⟨none,(onResponseError config message agent).2⟩
  | leased (type : message.type = responseLabel) (checked : message.calcMagic = message.magic) :
    Received config localtime message written agent (onResponseLabel message written agent) ⟨none,none⟩
  | dropped (type : message.type = responseError ∨ message.type = responseLabel)
    (illegal : message.calcMagic ≠ message.magic) :
    Received config localtime message written agent agent ⟨none,none⟩
  | unknown : Received config localtime message written agent agent
      ⟨some (prepareResponseError message errorInvalidType),none⟩

theorem receive_received (msg : MessageHead) (written : Bool)
    (agent next : State) (sent : Sent) (got : receive config localtime msg written agent = some (next,sent)) :
    Received config localtime msg written {agent with requestBuffer := msg} next sent := by
  unfold receive at got
  dsimp only at got
  split_ifs at got with label uniqId uniqSeq labelAndSeq error illegal leased illegal
  · cases got
    exact .label label
  · obtain ⟨⟨after,res⟩,ready,same⟩ := Option.map_eq_some_iff.mp got
    cases same
    exact .uniqId after res uniqId ready
  · cases got
    exact .uniqSeq uniqSeq
  · cases got
    exact .labelAndSeq labelAndSeq
  · cases got
    exact .dropped (Or.inl error) illegal
  · cases got
    exact .error error (not_not.mp illegal)
  · cases got
    exact .dropped (Or.inr leased) illegal
  · cases got
    exact .leased leased (not_not.mp illegal)
  · cases got
    exact .unknown

end Mooon.UniqId.Agent

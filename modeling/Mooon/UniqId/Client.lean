import Mooon.UniqId.Counter
import Mooon.UniqId.Dates

/-! The client of the unique-id service, `CUniqId`: its requests to an agent, the checks of the
response and the ids it assembles itself. The network answers each attempt with a message of the
agent that was asked, or with the exception of an attempt that has none. -/
namespace Mooon.UniqId.Client
open Mooon.UniqId.Agent (Date dateOf dateField)
open Option

def echoStart : UInt32 := 1357
def retryMax : UInt8 := 128
def errorMismatch : UInt32 := 201600010
def errorIllegal : UInt32 := 201600012

/-- What is thrown. An id that is made of a time which `localtime_r` refuses is undefined. -/
inductive Failure where
  | syscall (errcode : Int)
  | exception (errcode : UInt32)
  | undefined
deriving DecidableEq

structure CUniqId where
  echo : UInt32
  retryTimes : UInt8
deriving DecidableEq

def CUniqId.make (echo : UInt32) (retryTimes : UInt8) : CUniqId :=
  ⟨echo,if retryMax < retryTimes then retryMax else retryTimes⟩

def getEcho (random echo : UInt32) : UInt32 :=
  if echo < echoStart then echoStart + random
  else if echo % 10 = 0 then echo + 1
  else echo

def request (type : UInt16) (echo value1 : UInt32) (value3 : UInt64) : MessageHead :=
  MessageHead.updateMagic ⟨messageHeadSize,type,majorVersion,minorVersion,0,echo,value1,0,value3⟩

def uniqIdRequest (echo : UInt32) (user : UInt8) (currentSeconds : UInt64) : MessageHead :=
  let head : MessageHead := ⟨messageHeadSize,requestUniqId,majorVersion,minorVersion,0,echo,user.toUInt32,0,0⟩
  -- `value1` is assigned a second time, where `value2` was meant
  let head := {head with value1 := 0}
  MessageHead.updateMagic {head with value3 := currentSeconds}

def labelAndSeqRequest (echo : UInt32) (num : UInt16) : MessageHead :=
  request requestLabelAndSeq echo num.toUInt32 0

def checkResponse (type : UInt16) (echo : UInt32) (response : MessageHead) : Except Failure MessageHead :=
  if response.type = responseError then .error (.exception response.value1)
  else if response.type ≠ type then .error (.exception response.type.toUInt32)
  else if response.echo ≠ echo then .error (.exception errorMismatch)
  else if response.calcMagic ≠ response.magic then .error (.exception errorIllegal)
  else .ok response

def acceptUniqId (echo : UInt32) (response : MessageHead) : Except Failure UInt64 :=
  (checkResponse responseUniqId echo response).map MessageHead.value3

def acceptLabelAndSeq (echo : UInt32) (response : MessageHead) : Except Failure (UInt8 × UInt32) :=
  match checkResponse responseLabelAndSeq echo response with
  | .error failure => .error failure
  | .ok response =>
    if 255 ≤ response.value1 ∨ response.value1 < 1 then .error (.exception errorInvalidLabel)
    else .ok (response.value1.toUInt8,response.value2)

/-- The loop over the attempts; `none` when it ends without a result. -/
def tryAgents {Result : Type} (retryTimes : Nat) (network : Nat → Except Failure MessageHead)
    (accept : MessageHead → Except Failure Result) : Nat → Except Failure (Option Result)
  | 0 => .ok none
  | left+1 =>
    let retry := retryTimes - left
    match (network retry).bind accept with
    | .ok result => .ok (some result)
    | .error failure =>
      if retryTimes = 0 ∨ retryTimes ≤ retry + 1 then .error failure
      else tryAgents retryTimes network accept left

section
variable (network : MessageHead → Nat → Except Failure MessageHead) (random : UInt32)

def getUniqId (client : CUniqId) (user : UInt8) (currentSeconds : UInt64) : CUniqId × Except Failure UInt64 :=
  let echo := getEcho random client.echo
  let result := tryAgents client.retryTimes.toNat (network (uniqIdRequest echo user currentSeconds))
    (acceptUniqId echo)
    (client.retryTimes.toNat+1)
  ({client with echo := echo + 1},result.map fun found => found.getD 0)

def getLabelAndSeq (client : CUniqId) (num : UInt16) : CUniqId × Except Failure (UInt8 × UInt32) :=
  let echo := getEcho random client.echo
  let result := tryAgents client.retryTimes.toNat (network (labelAndSeqRequest echo num))
    (acceptLabelAndSeq echo)
    (client.retryTimes.toNat+1)
  ({client with echo := echo + 1},result.map fun found => found.getD (0,0))

def assemble (user : UInt8) (label : UInt8) (now : Tm) (seq : UInt32) : UniqID where
  user := BitVec.ofNat 6 user.toNat
  label := BitVec.ofNat 8 label.toNat
  year := BitVec.ofInt 7 (now.tmYear + 1900 - baseYear)
  month := BitVec.ofInt 4 (now.tmMon + 1)
  day := BitVec.ofInt 5 now.tmMday
  hour := BitVec.ofInt 5 now.tmHour
  seq := BitVec.ofNat 29 seq.toNat

def getLocalUniqId (localtimeR : TimeT → Option Tm) (clock : TimeT) (client : CUniqId) (user : UInt8)
    (currentSeconds : UInt64) : CUniqId × Except Failure UInt64 :=
  match getLabelAndSeq network random client 1 with
  | (client,.error failure) => (client,.error failure)
  | (client,.ok (label,seq)) =>
    let current := if currentSeconds = 0 then clock else currentSeconds.toInt64
    match localtimeR current with
    | none => (client,.error .undefined)
    | some now => (client,.ok (assemble user label now seq).value)

end

variable {retryTimes : Nat} {Result : Type}

theorem tryAgents_first {network : Nat → Except Failure MessageHead}
    {accept : MessageHead → Except Failure Result} {res : Result}
    (first : (network 0).bind accept = .ok res) :
    tryAgents retryTimes network accept (retryTimes+1) = .ok (some res) := by
  rw [tryAgents,Nat.sub_self,first]

theorem tryAgents_failed {network : Nat → Except Failure MessageHead}
    {accept : MessageHead → Except Failure Result} {failure : Failure}
    (never : ∀ retry, (network retry).bind accept = .error failure) {left : Nat} (bound : left ≤ retryTimes) :
    tryAgents retryTimes network accept (left+1) = .error failure := by
  induction left with
  | zero =>
    rw [tryAgents,never]
    dsimp only
    rw [if_pos (Or.inr (by omega))]
  | succ left ih =>
    rw [tryAgents,never]
    split_ifs
    · rfl
    · exact ih (by omega)

/-- No time is cached and no id has been given. -/
structure Fresh (agent : Agent.State) : Prop where
  oldTime : agent.oldTime = 0
  oldTm : agent.oldTm = ⟨0,0,0,0⟩
  oldSeq : agent.oldSeq = 0

/-- The agent has a label, serves under it, and its store, when one is needed, succeeds. -/
structure Serves (config : Agent.Config) (agent : Agent.State) (written : Bool) : Prop where
  labelled : ValidLabel agent.seqBlock.label.toNat
  unrefused : Agent.refusal config agent = none
  stored : Agent.Stored config agent ⟨1,written⟩

def timedOut : Failure := .syscall 110

def answerOf (config : Agent.Config) (localtime : TimeT → Option Tm) (agent : Agent.State) (written : Bool)
    (message : MessageHead) : Except Failure MessageHead :=
  match Agent.receive config localtime message written agent with
  | none => .error timedOut
  | some (_,sent) =>
    match sent.reply with
    | none => .error timedOut
    | some reply => .ok reply

def nextSeq (agent : Agent.State) : UInt32 := (Agent.takeSequence 1 agent.seqBlock.sequence).1

section
variable {config : Agent.Config} {localtime : TimeT → Option Tm} {agent : Agent.State} {written : Bool}

theorem Fresh.received (fresh : Fresh agent) (msg : MessageHead) : Fresh {agent with requestBuffer := msg} :=
  ⟨fresh.oldTime,fresh.oldTm,fresh.oldSeq⟩

theorem Serves.received (serves : Serves config agent written) (msg : MessageHead) :
    Serves config {agent with requestBuffer := msg} written :=
  ⟨serves.labelled,serves.unrefused,serves.stored⟩

theorem incSequence_serves (serves : Serves config agent written) :
    ∃ base : Agent.State, Agent.incSequence config 1 written agent = (base,nextSeq agent) ∧
      nextSeq agent ≠ 0 ∧
      base.seqBlock.label = agent.seqBlock.label ∧ base.oldTime = agent.oldTime ∧ base.oldTm = agent.oldTm ∧
      base.oldSeq = agent.oldSeq := by
  have nonzero : nextSeq agent ≠ 0 := by
    intro zero
    exact absurd ((Agent.takeSequence_eq_zero 1 agent.seqBlock.sequence).mp zero).2 (by decide)
  rcases Agent.incSequence_cases config 1 written agent with ⟨due,failed,_⟩ | ⟨base,origin,taken⟩
  · have stored : written = true := serves.stored due
    rw [stored] at failed
    cases failed
  · refine ⟨_,taken,nonzero,?_⟩
    rcases origin with ⟨_,rfl⟩ | ⟨_,_,rfl⟩
    · exact ⟨rfl,rfl,rfl,rfl⟩
    · exact ⟨rfl,rfl,rfl,rfl⟩

variable {label : UInt32}

theorem label_ne_zero (valid : ValidLabel label.toNat) : BitVec.ofNat 8 label.toUInt8.toNat ≠ 0 := by
  intro zero
  obtain ⟨low,high⟩ := valid
  have zero : (BitVec.ofNat 8 label.toUInt8.toNat).toNat = 0 := congrArg BitVec.toNat zero
  simp only [BitVec.toNat_ofNat,UInt32.toNat_toUInt8,labelMax] at zero high
  omega

variable {seq : UInt32} {id : UniqID}

theorem overflowed_fresh {next : Agent.State} (zero : next.oldSeq = 0) :
    Agent.overflowed id seq next = false := by
  have least : ¬ seq < 0 := UInt32.not_lt_zero
  simp [Agent.overflowed,zero]

variable {message : MessageHead}

theorem getUniqId_fresh (fresh : Fresh agent) (serves : Serves config agent written)
    (timed : message.value3.toInt64 ≠ 0) :
    (Agent.getUniqId config localtime message written agent).map Prod.snd =
      (Agent.keptTm localtime message.value3.toInt64 agent).map fun now =>
        (assemble message.value1.toUInt8 agent.seqBlock.label.toUInt8 now (nextSeq agent)).value := by
  obtain ⟨base,taken,nonzero,label,oldTime,oldTm,oldSeq⟩ := incSequence_serves serves
  have kept : Agent.keptTm localtime message.value3.toInt64 agent =
      (Agent.refreshTime localtime message.value3.toInt64 base).map Agent.State.oldTm := by
    unfold Agent.keptTm Agent.refreshTime
    rw [oldTime]
    split_ifs
    · rw [map_map]
      exact map_id'.symm
    · rw [← oldTm]
      rfl
  unfold Agent.getUniqId
  rw [taken,kept]
  dsimp only
  rw [if_neg nonzero,if_neg timed]
  cases refreshed : Agent.refreshTime localtime message.value3.toInt64 base with
  | none => rfl
  | some next =>
    have frame := Agent.refreshTime_frame _ _ _ _ refreshed
    have zero : next.oldSeq = 0 := by
      rw [frame]
      exact oldSeq.trans fresh.oldSeq
    have held : next.seqBlock.label = agent.seqBlock.label := by
      rw [frame]
      exact label
    simp only [map_some,overflowed_fresh zero,Bool.false_eq_true,if_false,Agent.composeId,held,assemble]

variable {user : UInt8} {now : Tm}

theorem assemble_ne (valid : ValidLabel label.toNat) :
    (assemble user label.toUInt8 now seq).value ≠ 0 ∧ (assemble user label.toUInt8 now seq).value ≠ 1 :=
  Agent.value_ne _ (label_ne_zero valid)

variable (localtime) in
theorem answerOf_uniqId (fresh : Fresh agent) (serves : Serves config agent written)
    (type : message.type = requestUniqId) (timed : message.value3.toInt64 ≠ 0) :
    answerOf config localtime agent written message =
      match Agent.keptTm localtime message.value3.toInt64 agent with
      | none => .error timedOut
      | some now => .ok (response responseUniqId message 0 0
          (assemble message.value1.toUInt8 agent.seqBlock.label.toUInt8 now (nextSeq agent)).value) := by
  have got : (Agent.getUniqId config localtime message written
      {agent with requestBuffer := message}).map Prod.snd =
      (Agent.keptTm localtime message.value3.toInt64 agent).map fun now =>
        (assemble message.value1.toUInt8 agent.seqBlock.label.toUInt8 now (nextSeq agent)).value :=
    getUniqId_fresh (fresh.received message) (serves.received message) timed
  unfold answerOf Agent.receive
  rw [if_neg (by rw [type]; decide),if_pos type]
  unfold Agent.prepareResponseGetUniqId
  rw [(serves.received message).unrefused]
  cases tm : Agent.keptTm localtime message.value3.toInt64 agent with
  | none =>
    rw [tm,map_none,map_eq_none_iff] at got
    rw [got]
    rfl
  | some now =>
    rw [tm] at got
    obtain ⟨⟨next,value⟩,made,rfl⟩ := Option.map_eq_some_iff.mp got
    obtain ⟨nonzero,nonone⟩ := assemble_ne serves.labelled
    rw [made]
    dsimp only [map_some]
    rw [if_neg nonzero,if_neg nonone]
    rfl

variable (localtime) in
theorem answerOf_labelAndSeq (serves : Serves config agent written)
    (type : message.type = requestLabelAndSeq) (single : message.value1.toUInt16 = 1) :
    answerOf config localtime agent written message =
      .ok (response responseLabelAndSeq message agent.seqBlock.label (nextSeq agent) 0) := by
  obtain ⟨base,taken,nonzero,label,_⟩ := incSequence_serves (serves.received message)
  unfold answerOf Agent.receive
  rw [if_neg (by rw [type]; decide),if_neg (by rw [type]; decide),if_neg (by rw [type]; decide),if_pos type]
  unfold Agent.prepareResponseGetLabelAndSeq
  rw [(serves.received message).unrefused,single]
  rw [taken]
  dsimp only
  rw [if_neg nonzero,label]
  rfl

theorem checkResponse_response {type : UInt16} (answers : type ≠ responseError) (message : MessageHead)
    (value1 value2 : UInt32) (value3 : UInt64) :
    checkResponse type message.echo (response type message value1 value2 value3) =
      .ok (response type message value1 value2 value3) := by
  have echo : (response type message value1 value2 value3).echo = message.echo := rfl
  have magic : (response type message value1 value2 value3).calcMagic =
    (response type message value1 value2 value3).magic := rfl
  simp only [checkResponse,response_type,answers,echo,magic,ne_eq,not_true,if_false]

theorem acceptLabelAndSeq_response (valid : ValidLabel label.toNat) (message : MessageHead)
    (seq : UInt32) (value3 : UInt64) :
    acceptLabelAndSeq message.echo (response responseLabelAndSeq message label seq value3) =
      .ok (label.toUInt8,seq) := by
  have inside : ¬ (255 ≤ label ∨ label < 1) := by
    obtain ⟨low,high⟩ := valid
    unfold labelMax at high
    simp only [UInt32.le_iff_toNat_le,UInt32.lt_iff_toNat_lt]
    simp
    omega
  unfold acceptLabelAndSeq
  rw [checkResponse_response (by decide)]
  exact if_neg inside

def network (config : Agent.Config) (localtime : TimeT → Option Tm) (agent : Agent.State) (written : Bool)
    (message : MessageHead) (_retry : Nat) : Except Failure MessageHead :=
  answerOf config localtime agent written message

variable (localtime) in
theorem getUniqId_result (fresh : Fresh agent) (serves : Serves config agent written) {client : CUniqId}
    {random : UInt32} {seconds : UInt64} (timed : seconds ≠ 0) :
    (getUniqId (network config localtime agent written) random client user seconds).2 =
      match Agent.keptTm localtime seconds.toInt64 agent with
      | none => .error timedOut
      | some now => .ok (assemble 0 agent.seqBlock.label.toUInt8 now (nextSeq agent)).value := by
  have timed : seconds.toInt64 ≠ 0 := fun zero => timed (congrArg Int64.toUInt64 zero)
  have answer := answerOf_uniqId localtime fresh serves
    (rfl : (uniqIdRequest (getEcho random client.echo) user seconds).type = requestUniqId) timed
  have time : (uniqIdRequest (getEcho random client.echo) user seconds).value3 = seconds := rfl
  rw [time] at answer
  unfold getUniqId
  dsimp only
  cases kept : Agent.keptTm localtime seconds.toInt64 agent with
  | none =>
    rw [kept] at answer
    have never : ∀ retry, (network config localtime agent written
        (uniqIdRequest (getEcho random client.echo) user seconds) retry).bind
          (acceptUniqId (getEcho random client.echo)) = .error timedOut :=
      fun _ => congrArg (Except.bind · _) answer
    rw [tryAgents_failed never le_rfl]
    rfl
  | some now =>
    rw [kept] at answer
    have first : (network config localtime agent written
        (uniqIdRequest (getEcho random client.echo) user seconds) 0).bind
          (acceptUniqId (getEcho random client.echo)) =
          .ok (assemble 0 agent.seqBlock.label.toUInt8 now (nextSeq agent)).value := by
      refine (congrArg (Except.bind · _) answer).trans ?_
      exact congrArg (Except.map _) (checkResponse_response (by decide) _ _ _ _)
    rw [tryAgents_first first]
    rfl

variable (localtime) in
theorem getLocalUniqId_result (serves : Serves config agent written) {clock : TimeT} {client : CUniqId}
    {random : UInt32} {seconds : UInt64} (timed : seconds ≠ 0) :
    (getLocalUniqId (network config localtime agent written) random localtime clock client user seconds).2 =
      match localtime seconds.toInt64 with
      | none => .error .undefined
      | some now => .ok (assemble user agent.seqBlock.label.toUInt8 now (nextSeq agent)).value := by
  have answer := answerOf_labelAndSeq localtime serves
    (rfl : (labelAndSeqRequest (getEcho random client.echo) 1).type = requestLabelAndSeq) rfl
  have first := congrArg (Except.bind · (acceptLabelAndSeq (getEcho random client.echo))) answer
  have found : getLabelAndSeq (network config localtime agent written) random client 1 =
      ({client with echo := getEcho random client.echo + 1},
        .ok (agent.seqBlock.label.toUInt8,nextSeq agent)) := by
    unfold getLabelAndSeq
    dsimp only
    rw [tryAgents_first (first.trans (acceptLabelAndSeq_response serves.labelled _ _ _))]
    rfl
  unfold getLocalUniqId
  rw [found]
  dsimp only
  rw [if_neg timed]
  cases localtime seconds.toInt64 with
  | none | some now => rfl

def userField (value : UInt64) : BitVec 6 := value.toBitVec.extractLsb' 0 6

theorem userField_value : userField id.value = id.user := by
  simp only [userField,UniqID.value]
  rw [BitVec.extractLsb'_append_eq_of_add_le (by decide)]
  simp

theorem dateField_assemble {label : UInt8} : dateField (assemble user label now seq).value = dateOf now :=
  Agent.dateField_value _

theorem dateOf_ne_fresh (calendar : Agent.Calendar localtime) {time : TimeT}
    (there : localtime time = some now) : dateOf ⟨0,0,0,0⟩ ≠ dateOf now := by
  intro same
  obtain ⟨_,⟨low,high⟩,_⟩ := calendar time now there
  simp only [dateOf,Prod.mk.injEq,← BitVec.toNat_inj,BitVec.toNat_ofInt] at same
  omega

end

/-- The id of the agent and the one that the client assembles agree, and have the caller's user,
exactly for user 0 and a time that the agent makes a date of. -/
theorem uniqId_agree_iff (config : Agent.Config) (localtime : TimeT → Option Tm)
    (calendar : Agent.Calendar localtime)
    (agent : Agent.State) (written : Bool) (fresh : Fresh agent) (serves : Serves config agent written)
    (client : CUniqId) (random random' : UInt32) (clock : TimeT) (user : UInt8) (seconds : UInt64)
    (timed : seconds ≠ 0) :
    (∃ value, (getUniqId (network config localtime agent written) random client user seconds).2 = .ok value ∧
      (getLocalUniqId (network config localtime agent written) random' localtime clock client user
        seconds).2 =
        .ok value ∧ (userField value).toNat = user.toNat) ↔
      user = 0 ∧ 30 < seconds.toInt64.toInt ∧ (localtime seconds.toInt64).isSome := by
  rw [getUniqId_result localtime fresh serves timed,getLocalUniqId_result localtime serves timed]
  have kept : Agent.keptTm localtime seconds.toInt64 agent =
      if 30 < seconds.toInt64.toInt then localtime seconds.toInt64 else some ⟨0,0,0,0⟩ := by
    rw [Agent.keptTm,fresh.oldTime,fresh.oldTm,Int64.toInt_zero,Int.sub_zero]
  rw [kept]
  constructor
  · rintro ⟨value,remote,assembled,owner⟩
    cases there : localtime seconds.toInt64 with
    | none =>
      rw [there] at assembled
      cases assembled
    | some now =>
      rw [there] at assembled remote
      cases assembled
      have late : 30 < seconds.toInt64.toInt := by
        by_contra early
        rw [if_neg early] at remote
        have dates := congrArg dateField (Except.ok.inj remote)
        rw [dateField_assemble,dateField_assemble] at dates
        exact dateOf_ne_fresh calendar there dates
      rw [if_pos late] at remote
      rw [← Except.ok.inj remote,userField_value] at owner
      exact ⟨UInt8.toNat_inj.mp owner.symm,late,rfl⟩
  · rintro ⟨rfl,late,some⟩
    obtain ⟨now,there⟩ := Option.isSome_iff_exists.mp some
    rw [if_pos late,there]
    refine ⟨_,rfl,rfl,?_⟩
    rw [userField_value]
    rfl

def sampleClient : CUniqId := .make 0 5

theorem sampleServer_fresh : Fresh Agent.sampleServer := ⟨by decide,by decide,by decide⟩

theorem sampleServer_serves : Serves (Agent.sampleConfig 100000) Agent.sampleServer true :=
  ⟨by decide,by decide,fun _ => rfl⟩

theorem uniqId_agree_user_zero :
    ∃ value, (getUniqId (network (Agent.sampleConfig 100000) Agent.sampleHours Agent.sampleServer
      true) 17 sampleClient
        0 1483232400).2 = .ok value ∧
      (getLocalUniqId (network (Agent.sampleConfig 100000) Agent.sampleHours Agent.sampleServer true) 18
        Agent.sampleHours 1483228800 sampleClient 0 1483232400).2 = .ok value ∧
      (userField value).toNat = (0 : UInt8).toNat :=
  (uniqId_agree_iff _ _ Agent.sampleHours_calendar _ _ sampleServer_fresh sampleServer_serves
    sampleClient 17 18 _ 0
    1483232400 (by decide)).mpr (by decide)

theorem uniqId_user_lost :
    (getUniqId (network (Agent.sampleConfig 100000) Agent.sampleHours Agent.sampleServer true) 17 sampleClient
        5 1483232400).2 ≠
      (getLocalUniqId (network (Agent.sampleConfig 100000) Agent.sampleHours Agent.sampleServer true) 17
        Agent.sampleHours 1483228800 sampleClient 5 1483232400).2 ∧
      ∀ value, (getUniqId (network (Agent.sampleConfig 100000) Agent.sampleHours Agent.sampleServer true) 17
        sampleClient 5 1483232400).2 = .ok value → (userField value).toNat = 0 := by
  rw [getUniqId_result _ sampleServer_fresh sampleServer_serves (by decide),
    getLocalUniqId_result _ sampleServer_serves (by decide)]
  refine ⟨by decide,?_⟩
  intro value given
  cases given
  decide

end Mooon.UniqId.Client

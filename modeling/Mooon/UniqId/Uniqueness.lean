import Mooon.UniqId.Sequence

/-! Uniqueness of the ids of one agent process. An id keeps 29 bits of the 32-bit
counter while the overflow guard compares all 32, so the ids of one hour differ as
long as the counter moves by less than 2^29 between them, and repeat after that. -/
namespace Mooon.UniqId.Agent
open List Option Run UInt32 Prod

structure Arrival where
  now : TimeT
  message : MessageHead
  written : Bool

/-- An answered id, with the hour it was composed for and the number of sequence numbers
drawn before its own. -/
structure Issue where
  hour : Int × Int × Int × Int
  position : Nat
  value : UInt64
deriving DecidableEq

structure Served where
  process : Option State
  drawn : Nat
  issued : List Issue

def hourOf (agent : State) : Int × Int × Int × Int :=
  (agent.oldYear,agent.oldMonth,agent.oldDay,agent.oldHour)

def hourFields (id : UniqID) : Int × Int × Int × Int :=
  (id.year.toNat,id.month.toNat,id.day.toNat,id.hour.toNat)

def drawnBetween (before after : UInt32) : Nat := (after - before).toNat

def Issue.of (drawn : Nat) (before after : State) (sent : Sent) : Option Issue :=
  match sent.reply with
  | some reply =>
    if reply.type = responseUniqId then
      some ⟨hourOf after,drawn + drawnBetween before.seqBlock.sequence after.oldSeq,reply.value3⟩
    else none
  | none => none

def serve (config : Config) (localtime : TimeT → Option Tm) (served : Served) (arrival : Arrival) :
    Served × Option Issue :=
  match served.process with
  | none => (served,none)
  | some agent =>
    match receive config localtime arrival.message arrival.written (wake config arrival.now agent).1 with
    | none => (⟨none,served.drawn,served.issued⟩,none)
    | some (next,sent) =>
      let issue := Issue.of served.drawn agent next sent
      (⟨some next,served.drawn + drawnBetween agent.seqBlock.sequence next.seqBlock.sequence,
        served.issued ++ issue.toList⟩,issue)

def uniqIds (config : Config) (localtime : TimeT → Option Tm) (agent : State)
    (arrivals : List Arrival) : List UInt64 :=
  (Run.outputs (serve config localtime) ⟨some agent,0,[]⟩ arrivals).reduceOption.map Issue.value

def hourFor (localtime : TimeT → Option Tm) (request : MessageHead)
    (agent : State) : Option (Int × Int × Int × Int) :=
  let current := if request.value3.toInt64 = 0 then agent.currentTime else request.value3.toInt64
  (refreshTime localtime current agent).map fun agent => hourFields (composeId request 0 agent)

/-- The next number is less than 2^29 draws away from every id answered for the hour of
this request. -/
def InWindow (localtime : TimeT → Option Tm) (served : Served) (arrival : Arrival) : Prop :=
  ∀ agent ∈ served.process, arrival.message.type = requestUniqId →
    ∀ hour ∈ hourFor localtime arrival.message {agent with currentTime := arrival.now},
      ∀ issue ∈ served.issued, issue.hour = hour →
        served.drawn + drawnBetween agent.seqBlock.sequence (takeSequence 1 agent.seqBlock.sequence).1 <
          issue.position + 2^29
deriving Decidable

variable (localtime : TimeT → Option Tm)

theorem refreshTime_frame (cur : TimeT) (agent next : State)
    (refreshed : refreshTime localtime cur agent = some next) :
    next = {agent with oldTm := next.oldTm, oldTime := next.oldTime} := by
  unfold refreshTime at refreshed
  split at refreshed
  · obtain ⟨now,_,rfl⟩ := map_eq_some_iff.mp refreshed
    rfl
  · cases refreshed
    rfl

theorem hourFor_congr {req : MessageHead} {first second : State}
    (oldTm : second.oldTm = first.oldTm) (oldTime : second.oldTime = first.oldTime)
    (currentTime : second.currentTime = first.currentTime) :
    hourFor localtime req second = hourFor localtime req first := by
  unfold hourFor
  rw [currentTime]
  generalize (if req.value3.toInt64 = 0 then first.currentTime else req.value3.toInt64) = cur
  unfold refreshTime
  rw [oldTime]
  dsimp only
  split
  · rw [Option.map_map,Option.map_map]
    rfl
  · simp only [Option.map_some,hourFields,composeId,oldTm]

variable (config : Config)

theorem getUniqId_issue (localtime : TimeT → Option Tm) (req : MessageHead) (written : Bool)
    (agent next : State) (value : UInt64)
    (made : getUniqId config localtime req written agent = some (next,value))
    (nonzero : value ≠ 0) (nonone : value ≠ 1) :
    ∃ id : UniqID, value = id.value ∧ id.seq = BitVec.ofNat 29 next.oldSeq.toNat ∧
      hourOf next = hourFields id ∧ hourFor localtime req agent = some (hourFields id) ∧
      next.oldSeq = (takeSequence 1 agent.seqBlock.sequence).1 ∧
      next.seqBlock.sequence = (takeSequence 1 agent.seqBlock.sequence).2 ∧
      id.label = BitVec.ofNat 8 agent.seqBlock.label.toUInt8.toNat := by
  unfold getUniqId at made
  rcases incSequence_cases config 1 written agent with ⟨_,_,eq⟩ | ⟨base,origin,eq⟩
  · rw [eq] at made
    simp only [if_true,some.injEq,mk.injEq] at made
    exact absurd made.2.symm nonzero
  · rw [eq] at made
    dsimp only at made
    split at made
    · simp only [some.injEq,mk.injEq] at made
      exact absurd made.2.symm nonzero
    · obtain ⟨fresh,refreshed,res⟩ := map_eq_some_iff.mp made
      have frame := refreshTime_frame _ _ _ _ refreshed
      split at res
      · simp only [mk.injEq] at res
        exact absurd res.2.symm nonone
      · simp only [mk.injEq] at res
        obtain ⟨rfl,rfl⟩ := res
        have label : base.seqBlock.label = agent.seqBlock.label := by
          rcases origin with ⟨_,rfl⟩ | ⟨_,_,rfl⟩ <;> rfl
        have hour : hourFor localtime req agent =
            hourFor localtime req (base.withSequence (takeSequence 1 agent.seqBlock.sequence).2) := by
          rcases origin with ⟨_,rfl⟩ | ⟨_,_,rfl⟩ <;> exact hourFor_congr _ rfl rfl rfl
        refine ⟨_,rfl,rfl,rfl,?_,rfl,?_,?_⟩
        · rw [hour]
          unfold hourFor
          dsimp only
          rw [refreshed]
          rfl
        · rw [frame]
          rfl
        · rw [frame,← label]
          rfl

theorem answer_reply (req reply : MessageHead) (res : Except UInt32 MessageHead)
    (replied : (Sent.answer req res).reply = some reply) : res = .ok reply ∨ reply.type = responseError := by
  cases res with
  | ok resp => exact Or.inl (congrArg Except.ok (some.inj replied))
  | error errcode =>
    rw [← some.inj replied]
    exact Or.inr rfl

theorem receive_issue (localtime : TimeT → Option Tm) (msg : MessageHead) (written : Bool)
    (agent next : State) (sent : Sent) (reply : MessageHead)
    (got : receive config localtime msg written agent = some (next,sent))
    (replied : sent.reply = some reply) (issued : reply.type = responseUniqId) :
    msg.type = requestUniqId ∧ refusal config {agent with requestBuffer := msg} = none ∧
      getUniqId config localtime msg written {agent with requestBuffer := msg} = some (next,reply.value3) ∧
      reply.value3 ≠ 0 ∧ reply.value3 ≠ 1 := by
  have noError : reply.type ≠ responseError := by
    rw [issued]
    decide
  cases receive_received config localtime msg written agent next sent got with
  | label type =>
    rcases answer_reply msg reply _ replied with ok | error
    · rw [(prepareResponseGetLabel_ok _ _ _ _ ok).2,response_type] at issued
      exact absurd issued (by decide)
    · exact absurd error noError
  | uniqId next res type ready =>
    rcases answer_reply msg reply res replied with rfl | error
    · obtain ⟨serving,uniqId,made,zero,one,rfl⟩ := prepareResponseGetUniqId_ok _ _ _ _ _ _ _ ready
      exact ⟨type,serving,made,zero,one⟩
    · exact absurd error noError
  | uniqSeq type =>
    rcases answer_reply msg reply _ replied with ok | error
    · obtain ⟨_,seq,rfl⟩ := prepareResponseGetUniqSeq_ok _ _ _ _ _ ok
      exact absurd issued (by rw [response_type]; decide)
    · exact absurd error noError
  | labelAndSeq type =>
    rcases answer_reply msg reply _ replied with ok | error
    · obtain ⟨_,seq,rfl⟩ := prepareResponseGetLabelAndSeq_ok _ _ _ _ _ ok
      exact absurd issued (by rw [response_type]; decide)
    · exact absurd error noError
  | error type checked | leased type checked | dropped type illegal => cases replied
  | unknown =>
    have same := some.inj replied
    rw [← same] at noError
    exact absurd rfl noError

variable (now : TimeT) (agent : State)

theorem wake_counter : (wake config now agent).1.seqBlock = agent.seqBlock := by
  unfold wake rentLabel
  dsimp only
  split_ifs <;> rfl

theorem wake_hourFor (localtime : TimeT → Option Tm) (msg : MessageHead) (now : TimeT)
    (agent : State) :
    hourFor localtime msg {(wake config now agent).1 with requestBuffer := msg} =
      hourFor localtime msg {agent with currentTime := now} := by
  apply hourFor_congr <;> unfold wake rentLabel <;> dsimp only <;> split_ifs <;> rfl

def Issue.Composed (first : UInt32) (issue : Issue) : Prop :=
  ∃ id : UniqID, issue.value = id.value ∧ issue.hour = hourFields id ∧
    id.seq = BitVec.ofNat 29 (first.toNat + issue.position)

/-- The counter is where the drawn numbers have moved it, also past a wrap, and the ids
answered so far are composed of numbers drawn so far and all differ. -/
structure Counted (first : UInt32) (served : Served) : Prop where
  counter : ∀ agent ∈ served.process, agent.seqBlock.sequence = first + UInt32.ofNat served.drawn
  composed : ∀ issue ∈ served.issued, issue.Composed first ∧ issue.position < served.drawn
  distinct : (served.issued.map Issue.value).Nodup

theorem add_drawnBetween {before after : UInt32} :
    before + UInt32.ofNat (drawnBetween before after) = after := by
  rw [drawnBetween,UInt32.ofNat_toNat,UInt32.add_comm,UInt32.sub_add_cancel]

theorem drawnBetween_take (seq : UInt32) :
    drawnBetween seq (takeSequence 1 seq).1 < drawnBetween seq (takeSequence 1 seq).2 := by
  unfold takeSequence
  rw [if_pos (by decide)]
  split_ifs with zero
  · rw [zero]
    decide
  · have one : seq + 1 - seq = 1 := by rw [UInt32.add_comm,UInt32.add_sub_cancel]
    simp [drawnBetween,one]

variable {first : UInt32}

theorem seq_field {pos : Nat} :
    BitVec.ofNat 29 (first + UInt32.ofNat pos).toNat = BitVec.ofNat 29 (first.toNat + pos) := by
  apply BitVec.eq_of_toNat_eq
  rw [BitVec.toNat_ofNat,BitVec.toNat_ofNat,UInt32.toNat_add,UInt32.toNat_ofNat']
  omega

variable {served : Served}

theorem Counted.moved {agent : State} (counted : Counted first served)
    (running : served.process = some agent) (after : UInt32) :
    after = first + UInt32.ofNat (served.drawn + drawnBetween agent.seqBlock.sequence after) := by
  have start := counted.counter agent running
  rw [UInt32.ofNat_add,← UInt32.add_assoc,← start,add_drawnBetween]

theorem composed_ne {early late : Issue} (made : early.Composed first)
    (composed' : late.Composed first) (ordered : early.position < late.position)
    (window : early.hour = late.hour → late.position < early.position + 2^29) : early.value ≠ late.value := by
  obtain ⟨id,value,hour,seq⟩ := made
  obtain ⟨id',value',hour',seq'⟩ := composed'
  intro same
  have equal : id = id' := value_injective (by rw [← value,← value',same])
  subst equal
  have near := window (hour.trans hour'.symm)
  have field := congrArg BitVec.toNat (seq.symm.trans seq')
  rw [BitVec.toNat_ofNat,BitVec.toNat_ofNat] at field
  omega

variable {localtime : TimeT → Option Tm} {arrival : Arrival}

theorem issue_spec {agent next : State} {sent : Sent} {issue : Issue} (counted : Counted first served)
    (running : served.process = some agent)
    (got : receive config localtime arrival.message arrival.written (wake config arrival.now agent).1 =
      some (next,sent))
    (issued : Issue.of served.drawn agent next sent = some issue) :
    arrival.message.type = requestUniqId ∧
    hourFor localtime arrival.message {agent with currentTime := arrival.now} = some issue.hour ∧
    issue.position =
      served.drawn + drawnBetween agent.seqBlock.sequence (takeSequence 1 agent.seqBlock.sequence).1 ∧
    issue.position < served.drawn + drawnBetween agent.seqBlock.sequence next.seqBlock.sequence ∧
    issue.Composed first := by
  unfold Issue.of at issued
  split at issued
  · rename_i reply replied
    split at issued
    · rename_i type
      cases issued
      obtain ⟨req,_,made,zero,one⟩ := receive_issue _ _ _ _ _ _ _ _ got replied type
      obtain ⟨id,value,seq,hour,composedFor,drawnSeq,counter,_⟩ := getUniqId_issue _ _ _ _ _ _ _ made zero one
      simp only [wake_counter] at drawnSeq counter
      have ahead := drawnBetween_take agent.seqBlock.sequence
      rw [← drawnSeq,← counter] at ahead
      refine ⟨req,?_,by rw [drawnSeq],by dsimp only; omega,id,value,hour,?_⟩
      · rw [← wake_hourFor config,composedFor,hour]
      · rw [seq,counted.moved running next.oldSeq,seq_field]
        rw [← counted.moved running next.oldSeq]
    · cases issued
  · cases issued

theorem serve_counted (localtime : TimeT → Option Tm) (first : UInt32) (served : Served)
    (arrival : Arrival) (counted : Counted first served) (window : InWindow localtime served arrival) :
    Counted first (serve config localtime served arrival).1 := by
  unfold serve
  cases running : served.process with
  | none => exact counted
  | some agent =>
    dsimp only
    cases got : receive config localtime arrival.message arrival.written
      (wake config arrival.now agent).1 with
    | none => exact ⟨by simp,counted.composed,counted.distinct⟩
    | some res =>
      obtain ⟨next,sent⟩ := res
      have counter : ∀ after ∈ some next, after.seqBlock.sequence =
          first + ofNat (served.drawn + drawnBetween agent.seqBlock.sequence next.seqBlock.sequence) := by
        intro after same
        cases same
        exact counted.moved running next.seqBlock.sequence
      dsimp only
      cases issued : Issue.of served.drawn agent next sent with
      | none =>
        refine ⟨counter,?_,by simpa using counted.distinct⟩
        intro issue mem
        obtain ⟨made,drawn⟩ := counted.composed issue (by simpa using mem)
        exact ⟨made,by dsimp only; omega⟩
      | some issue =>
        obtain ⟨req,hour,number,drawn,made⟩ :=
          issue_spec config counted running got issued
        refine ⟨counter,?_,?_⟩
        · intro other mem
          rcases mem_append.mp mem with earlier | same
          · obtain ⟨made,drawn⟩ := counted.composed other earlier
            exact ⟨made,by dsimp only; omega⟩
          · rw [mem_singleton.mp same]
            exact ⟨made,drawn⟩
        · dsimp only
          rw [map_append,nodup_append]
          refine ⟨counted.distinct,by simp,?_⟩
          intro value earlier last same
          obtain ⟨other,mem,rfl⟩ := mem_map.mp earlier
          obtain ⟨composed',drawn'⟩ := counted.composed other mem
          have near := window agent running req issue.hour hour other mem
          rw [← number] at near
          rw [mem_singleton.mp same]
          exact composed_ne composed' made (by omega) near

theorem serve_issued :
    (serve config localtime served arrival).1.issued =
      served.issued ++ (serve config localtime served arrival).2.toList := by
  unfold serve
  split
  · simp
  · split <;> simp

theorem final_issued {arrivals : List Arrival} :
    (final (serve config localtime) served arrivals).issued =
      served.issued ++ (outputs (serve config localtime) served arrivals).reduceOption := by
  induction arrivals generalizing served with
  | nil => rw [final_nil,outputs_nil,reduceOption_nil,append_nil]
  | cons arrival rest ih =>
    rw [final_cons,ih,serve_issued,outputs_cons]
    cases (serve config localtime served arrival).2 <;> simp

/-- All ids of a run differ when no id is composed 2^29 or more draws after an id of the
same hour. -/
theorem uniqIds_nodup (config : Config) (localtime : TimeT → Option Tm) (agent : State)
    (arrivals : List Arrival)
    (window : Run.Meets (InWindow localtime) (serve config localtime) ⟨some agent,0,[]⟩ arrivals) :
    (uniqIds config localtime agent arrivals).Nodup := by
  have start : Counted agent.seqBlock.sequence ⟨some agent,0,[]⟩ := by
    refine ⟨?_,by simp,by simp⟩
    intro same eq
    cases eq
    simp
  have counted := invariant (Counted agent.seqBlock.sequence) (serve_counted config localtime _) _ arrivals
    start window
  have distinct := counted.distinct
  rw [final_issued] at distinct
  exact distinct

structure SameHour (before after : State) : Prop where
  label : after.seqBlock.label = before.seqBlock.label
  ioError : after.ioError = before.ioError
  oldSeq : after.oldSeq = before.oldSeq
  oldTm : after.oldTm = before.oldTm
  oldTime : after.oldTime = before.oldTime

theorem SameHour.trans {first second third : State} (early : SameHour first second)
    (late : SameHour second third) : SameHour first third :=
  ⟨late.label.trans early.label,late.ioError.trans early.ioError,late.oldSeq.trans early.oldSeq,
    late.oldTm.trans early.oldTm,late.oldTime.trans early.oldTime⟩

theorem wake_sameHour : SameHour agent (wake config now agent).1 := by
  unfold wake rentLabel
  dsimp only
  split_ifs <;> exact ⟨rfl,rfl,rfl,rfl,rfl⟩

theorem incSequence_sameHour (deta : UInt16) (agent : State) :
    SameHour agent (incSequence config deta true agent).1 := by
  rcases incSequence_cases config deta true agent with ⟨_,bad,_⟩ | ⟨base,⟨_,rfl⟩ | ⟨_,_,rfl⟩,eq⟩
  · cases bad
  · rw [eq]
    exact ⟨rfl,rfl,rfl,rfl,rfl⟩
  · rw [eq]
    exact ⟨rfl,rfl,rfl,rfl,rfl⟩

theorem incSequence_counter (deta : UInt16) (agent : State) :
    (incSequence config deta true agent).2 = (takeSequence deta agent.seqBlock.sequence).1 ∧
    (incSequence config deta true agent).1.seqBlock.sequence =
      (takeSequence deta agent.seqBlock.sequence).2 := by
  rcases incSequence_cases config deta true agent with ⟨_,bad,_⟩ | ⟨base,_,eq⟩
  · cases bad
  · rw [eq]
    exact ⟨rfl,rfl⟩

theorem refusal_local (alone : config.masterMode = false)
    (working : agent.ioError = false) : refusal config agent = none := by
  simp [refusal,labelExpired,alone,working]

def request (type : UInt16) (value1 : UInt32) (value3 : UInt64) : MessageHead :=
  MessageHead.updateMagic ⟨messageHeadSize,type,majorVersion,minorVersion,0,1,value1,0,value3⟩

section
variable (localtime : TimeT → Option Tm)

theorem receive_uniqSeq (msg : MessageHead) (agent : State)
    (type : msg.type = requestUniqSeq) (alone : config.masterMode = false) (working : agent.ioError = false)
    (pos : 0 < agent.seqBlock.sequence.toNat) :
    receive config localtime msg true agent =
      some ((incSequence config msg.value1.toUInt16 true {agent with requestBuffer := msg}).1,
        ⟨some (response responseUniqSeq msg (takeSequence msg.value1.toUInt16 agent.seqBlock.sequence).1 0 0),
          none⟩) := by
  have served : refusal config {agent with requestBuffer := msg} = none :=
    refusal_local config _ alone working
  have number := (incSequence_counter config msg.value1.toUInt16 {agent with requestBuffer := msg}).1
  have nonzero := takeSequence_ne_zero msg.value1.toUInt16 agent.seqBlock.sequence pos
  unfold receive
  rw [type,if_neg (by decide),if_neg (by decide),if_pos rfl]
  simp only [prepareResponseGetUniqSeq,served,number,nonzero,if_false,Sent.answer]

theorem serve_uniqSeq (served : Served) (agent : State) (now : TimeT)
    (count : UInt32) (running : served.process = some agent) (alone : config.masterMode = false)
    (working : agent.ioError = false) (pos : 0 < agent.seqBlock.sequence.toNat)
    (fits : agent.seqBlock.sequence.toNat + max count.toUInt16.toNat 1 < 2^32) :
    ∃ after next, serve config localtime served ⟨now,request requestUniqSeq count 0,true⟩ = (after,none) ∧
      after.process = some next ∧ SameHour agent next ∧
      next.seqBlock.sequence.toNat = agent.seqBlock.sequence.toNat + max count.toUInt16.toNat 1 := by
  have woken := wake_sameHour config now agent
  have counter := wake_counter config now agent
  let msg := request requestUniqSeq count 0
  let buffered : State := {(wake config now agent).1 with requestBuffer := msg}
  let next : State := (incSequence config count.toUInt16 true buffered).1
  have same : SameHour agent buffered := woken.trans ⟨rfl,rfl,rfl,rfl,rfl⟩
  have got := receive_uniqSeq config localtime msg (wake config now agent).1 rfl alone
    (woken.ioError.trans working) (by rw [counter]; exact pos)
  refine ⟨⟨some next,served.drawn + drawnBetween agent.seqBlock.sequence next.seqBlock.sequence,
    served.issued ++ []⟩,
    next,?_,rfl,same.trans (incSequence_sameHour config count.toUInt16 buffered),?_⟩
  · unfold serve
    rw [running]
    dsimp only
    rw [got]
    rfl
  · rw [(incSequence_counter config count.toUInt16 buffered).2]
    rw [counter]
    exact (takeSequence_fits _ _ pos fits).2

theorem serve_uniqSeqs (served : Served) (agent : State) (now : TimeT)
    (count : UInt32) (times : Nat) (running : served.process = some agent) (alone : config.masterMode = false)
    (working : agent.ioError = false) (pos : 0 < agent.seqBlock.sequence.toNat)
    (fits : agent.seqBlock.sequence.toNat + times * max count.toUInt16.toNat 1 < 2^32) :
    ∃ next, (final (serve config localtime) served
        (replicate times ⟨now,request requestUniqSeq count 0,true⟩)).process = some next ∧
          SameHour agent next ∧
      next.seqBlock.sequence.toNat = agent.seqBlock.sequence.toNat + times * max count.toUInt16.toNat 1 := by
  induction times generalizing served agent with
  | zero => exact ⟨agent,running,⟨rfl,rfl,rfl,rfl,rfl⟩,by omega⟩
  | succ times ih =>
    rw [Nat.add_mul] at fits
    obtain ⟨after,middle,first,going,same,counter⟩ :=
      serve_uniqSeq config localtime served agent now count running alone
      working pos (by omega)
    obtain ⟨next,rest,same',counter'⟩ :=
      ih after middle going (same.ioError.trans working) (by omega) (by omega)
    refine ⟨next,?_,same.trans same',?_⟩
    · rw [replicate_succ,final_cons,first]
      exact rest
    · rw [Nat.add_mul]
      omega

end

variable (msg : MessageHead)

theorem composeId_sameHour (seq : UInt32) (before after : State) (same : SameHour before after) :
    composeId msg seq after = composeId msg seq before := by
  simp only [composeId,same.label,same.oldTm]

theorem value_ne (id : UniqID) (labelled : id.label ≠ 0) : id.value ≠ 0 ∧ id.value ≠ 1 := by
  constructor
  · intro zero
    have same : id = ⟨0,0,0,0,0,0,0⟩ := value_injective (zero.trans (by decide))
    exact labelled (by rw [same])
  · intro one
    have same : id = ⟨1,0,0,0,0,0,0⟩ := value_injective (one.trans (by decide))
    exact labelled (by rw [same])

theorem receive_uniqId {msg : MessageHead} {written : Bool} {agent next : State}
    {value : UInt64} (type : msg.type = requestUniqId)
    (served : refusal config {agent with requestBuffer := msg} = none)
    (made : getUniqId config localtime msg written {agent with requestBuffer := msg} = some (next,value))
    (zero : value ≠ 0) (one : value ≠ 1) :
    receive config localtime msg written agent =
      some (next,⟨some (response responseUniqId msg 0 0 value),none⟩) := by
  unfold receive
  rw [type,if_neg (by decide),if_pos rfl]
  simp only [prepareResponseGetUniqId,served,made,map_some,zero,one,if_false,Sent.answer]

def Arrival.time (arrival : Arrival) : TimeT :=
  if arrival.message.value3.toInt64 = 0 then arrival.now else arrival.message.value3.toInt64

section
variable (localtime : TimeT → Option Tm)

def keptTm (time : TimeT) (agent : State) : Option Tm :=
  if 30 < time.toInt - agent.oldTime.toInt then localtime time else some agent.oldTm

namespace State
variable (agent : State) (config : Config) (request : MessageHead)

def nextId (tm : Tm) : UniqID :=
  composeId request (takeSequence 1 agent.seqBlock.sequence).1 {agent with oldTm := tm}

/-- An id with this broken-down time can be given: its number is stored where that is due and does
not go back within the hour, and it is none of the two values that stand for errors. -/
structure Gives (written : Bool) (time : TimeT) (tm : Tm) : Prop where
  stored : storeDue config agent = true → written = true
  kept : keptTm localtime time agent = some tm
  forwards : overflowed (agent.nextId request tm) (takeSequence 1 agent.seqBlock.sequence).1 agent = false
  nonzero : (agent.nextId request tm).value ≠ 0
  nonone : (agent.nextId request tm).value ≠ 1

structure Answers (arrival : Arrival) (tm : Tm) : Prop where
  type : arrival.message.type = requestUniqId
  serving : refusal config {agent with currentTime := arrival.now} = none
  gives : agent.Gives localtime config arrival.message arrival.written arrival.time tm

end State

end

theorem refreshTime_eq (time : TimeT) (agent : State) : ∃ kept, refreshTime localtime time agent =
    (keptTm localtime time agent).map fun tm => {agent with oldTm := tm, oldTime := kept} := by
  unfold refreshTime keptTm
  split_ifs
  · exact ⟨time,rfl⟩
  · exact ⟨agent.oldTime,rfl⟩

theorem wake_frame (config : Config) (now : TimeT) (agent : State) :
    ∃ echo last buf, (wake config now agent).1 =
    {agent with currentTime := now, echo := echo, lastRentTime := last, requestBuffer := buf} := by
  unfold wake rentLabel
  dsimp only
  split_ifs <;> exact ⟨_,_,_,rfl⟩

theorem takeSequence_one (seq : UInt32) : (takeSequence 1 seq).1 ≠ 0 := by
  unfold takeSequence
  rw [if_pos (by decide)]
  split_ifs with zero
  · rw [zero]
    decide
  · exact zero

variable {config : Config}

theorem getUniqId_iff {request : MessageHead} {written : Bool} {agent : State} {value : UInt64}
    (nonzero : value ≠ 0)
    (nonone : value ≠ 1) : (∃ next, getUniqId config localtime request written agent = some (next,value)) ↔
      ∃ tm, agent.Gives localtime config request written
        (if request.value3.toInt64 = 0 then agent.currentTime else request.value3.toInt64) tm ∧
          value = (agent.nextId request tm).value := by
  unfold getUniqId
  rcases incSequence_cases config 1 written agent with ⟨due,failed,eq⟩ | ⟨base,origin,eq⟩
  · rw [eq]
    refine iff_of_false ?_ ?_
    · rintro ⟨next,made⟩
      simp only [if_true,Option.some.injEq,Prod.mk.injEq] at made
      exact nonzero made.2.symm
    · rintro ⟨tm,gives,-⟩
      exact Bool.false_ne_true (failed.symm.trans (gives.stored due))
  · have stored (due : storeDue config agent = true) : written = true := by
      rcases origin with ⟨fresh,-⟩ | ⟨-,stored,-⟩
      · exact absurd (fresh.symm.trans due) Bool.false_ne_true
      · exact stored
    obtain ⟨block,file,start,frame,label⟩ : ∃ block file start,
        base.withSequence (takeSequence 1 agent.seqBlock.sequence).2 =
          {agent with seqBlock := block, sequenceFile := file, sequenceStart := start} ∧
        block.label = agent.seqBlock.label := by
      rcases origin with ⟨-,rfl⟩ | ⟨-,-,rfl⟩ <;> exact ⟨_,_,_,rfl,rfl⟩
    rw [eq,frame]
    dsimp only
    generalize (if request.value3.toInt64 = 0 then agent.currentTime else request.value3.toInt64) = time
    obtain ⟨keptTime,refreshed⟩ := @refreshTime_eq localtime time
      {agent with seqBlock := block, sequenceFile := file, sequenceStart := start}
    rw [if_neg (takeSequence_one _),refreshed,Option.map_map]
    simp only [Option.map_eq_some_iff,Function.comp_apply,composeId,label]
    constructor
    · rintro ⟨next,tm,kept,made⟩
      split_ifs at made with wraps
      · exact absurd (congrArg Prod.snd made).symm nonone
      · obtain rfl := congrArg Prod.snd made
        exact ⟨tm,⟨stored,kept,Bool.eq_false_iff.mpr wraps,nonzero,nonone⟩,rfl⟩
    · rintro ⟨tm,gives,rfl⟩
      refine ⟨_,tm,gives.kept,if_neg ?_⟩
      exact Bool.eq_false_iff.mp gives.forwards

theorem serve_iff {value : UInt64} :
    (∃ issue, (serve config localtime served arrival).2 = some issue ∧ issue.value = value) ↔
    ∃ agent tm, served.process = some agent ∧ agent.Answers localtime config arrival tm ∧
      value = (agent.nextId arrival.message tm).value := by
  unfold serve
  cases running : served.process with
  | none => simp
  | some agent =>
    obtain ⟨echo,last,buf,woken⟩ := wake_frame config arrival.now agent
    dsimp only
    rw [woken]
    constructor
    · rintro ⟨issue,issued,rfl⟩
      split at issued
      · cases issued
      · rename_i next sent got
        dsimp only [Issue.of] at issued
        split at issued
        · rename_i reply replied
          split_ifs at issued with type
          cases issued
          obtain ⟨req,serving,made,zero,one⟩ := receive_issue _ _ _ _ _ _ _ _ got replied type
          obtain ⟨tm,gives,value⟩ := (getUniqId_iff zero one).mp ⟨_,made⟩
          exact ⟨agent,tm,rfl,⟨req,serving,gives.stored,gives.kept,gives.forwards,gives.nonzero,
            gives.nonone⟩,value⟩
        · cases issued
    · rintro ⟨_,tm,⟨⟩,⟨type,serving,gives⟩,rfl⟩
      let woken : State := {agent with
        currentTime := arrival.now, echo := echo, lastRentTime := last, requestBuffer := buf}
      obtain ⟨next,made⟩ : ∃ next, getUniqId config localtime arrival.message arrival.written
          {woken with requestBuffer := arrival.message} =
            some (next,(agent.nextId arrival.message tm).value) :=
        (getUniqId_iff gives.nonzero gives.nonone).mpr
          ⟨tm,⟨gives.stored,gives.kept,gives.forwards,gives.nonzero,gives.nonone⟩,rfl⟩
      have unrefused : refusal config {woken with requestBuffer := arrival.message} = none := serving
      rw [receive_uniqId config type unrefused made gives.nonzero gives.nonone]
      exact ⟨_,rfl,rfl⟩

variable (config) in
theorem serve_uniqId (localtime : TimeT → Option Tm) (served : Served) (agent : State) (now : TimeT)
    (value1 : UInt32) (value3 : UInt64) (running : served.process = some agent)
    (alone : config.masterMode = false)
    (working : agent.ioError = false) (pos : 0 < agent.seqBlock.sequence.toNat) (timed : value3.toInt64 ≠ 0)
    (cached : value3.toInt64.toInt - agent.oldTime.toInt ≤ 30)
    (ahead : agent.oldSeq ≤ agent.seqBlock.sequence)
    (labelled : BitVec.ofNat 8 agent.seqBlock.label.toUInt8.toNat ≠ 0) :
    ∃ issue, (serve config localtime served ⟨now,request requestUniqId value1 value3,true⟩).2 = some issue ∧
      issue.value = (composeId (request requestUniqId value1 value3) agent.seqBlock.sequence
        agent).value := by
  have nonzero : agent.seqBlock.sequence ≠ 0 := by
    intro zero
    simp [zero] at pos
  have first : (takeSequence 1 agent.seqBlock.sequence).1 = agent.seqBlock.sequence := by
    simp [takeSequence,nonzero]
  have early : ¬ 30 < value3.toInt64.toInt - agent.oldTime.toInt := by omega
  have kept : keptTm localtime value3.toInt64 agent = some agent.oldTm := if_neg early
  have notBelow : ¬ agent.seqBlock.sequence < agent.oldSeq := by
    rw [lt_iff_toNat_lt]
    have := le_iff_toNat_le.mp ahead
    omega
  obtain ⟨zero,one⟩ := value_ne (agent.nextId (request requestUniqId value1 value3) agent.oldTm) labelled
  have answers : agent.Answers localtime config ⟨now,request requestUniqId value1 value3,true⟩
      agent.oldTm := by
    refine ⟨rfl,refusal_local config {agent with currentTime := now} alone working,fun _ => rfl,?_,
      ?_,zero,one⟩
    · exact (congrArg (keptTm localtime · agent) (if_neg timed)).trans kept
    · simp [overflowed,first,notBelow]
  refine serve_iff.mpr ⟨agent,agent.oldTm,running,answers,?_⟩
  rw [State.nextId,first]

def sampleTime (time : TimeT) : Option Tm := if time = 1483228800 then some ⟨117,0,1,0⟩ else none

def sampleServer : State := (restoreSequence (sampleConfig 100000) [] true (.start .empty 1483228800)).1

def sampleId : Arrival := ⟨1483228800,request requestUniqId 0 1483228800,true⟩

def sampleSeq (count : UInt32) : Arrival := ⟨1483228800,request requestUniqSeq count 0,true⟩

def sampleArrivals : List Arrival :=
  sampleId :: (List.replicate 8192 (sampleSeq 65535) ++ [sampleSeq 8191,sampleId])

theorem uniqIds_nodup_two :
    (uniqIds (sampleConfig 100000) sampleTime sampleServer [sampleId,sampleSeq 100,sampleId]).length = 2 ∧
    (uniqIds (sampleConfig 100000) sampleTime sampleServer [sampleId,sampleSeq 100,sampleId]).Nodup :=
  ⟨by decide,uniqIds_nodup (sampleConfig 100000) sampleTime sampleServer [sampleId,sampleSeq 100,
    sampleId] (by decide)⟩

def sampleServed : Served := (serve (sampleConfig 100000) sampleTime ⟨some sampleServer,0,[]⟩ sampleId).1

def sampleAfter : State := sampleServed.process.getD sampleServer

theorem repeated_value {first last : Issue} {middle : List (Option Issue)} (same : last.value = first.value) :
    ¬ ((some first :: (middle ++ [none,some last])).reduceOption.map Issue.value).Nodup := by
  simp [reduceOption_append,same]

theorem uniqIds_repeat : ¬ (uniqIds (sampleConfig 100000) sampleTime sampleServer sampleArrivals).Nodup := by
  have first : serve (sampleConfig 100000) sampleTime ⟨some sampleServer,0,[]⟩ sampleId =
      (sampleServed,some ⟨hourOf sampleAfter,0,
        (composeId sampleId.message 100000 sampleAfter).value⟩) := by rfl
  have counter : sampleAfter.seqBlock.sequence.toNat = 100001 := by decide
  obtain ⟨middle,running,same,counted⟩ :=
    serve_uniqSeqs (sampleConfig 100000) sampleTime sampleServed sampleAfter
    1483228800 65535 8192 rfl rfl (by decide) (by decide) (by rw [counter]; decide)
  obtain ⟨drawn,batches⟩ : ∃ drawn, final (serve (sampleConfig 100000) sampleTime) sampleServed
      (replicate 8192 ⟨1483228800,request requestUniqSeq 65535 0,true⟩) = drawn := ⟨_,rfl⟩
  rw [batches] at running
  obtain ⟨after,last,batch,going,same',counted'⟩ :=
    serve_uniqSeq (sampleConfig 100000) sampleTime drawn middle
    1483228800 8191 running rfl (same.ioError.trans (by decide)) (by omega) (by rw [counted]; decide)
  have together := same.trans same'
  have reached : last.seqBlock.sequence = 100000 + 2^29 := by
    apply UInt32.toNat_inj.mp
    rw [counted',counted]
    decide
  obtain ⟨issue,issued,value⟩ :=
    serve_uniqId (sampleConfig 100000) sampleTime after last 1483228800 0 1483228800
    going rfl (together.ioError.trans (by decide)) (by rw [reached]; decide) (by decide)
    (by rw [together.oldTime]; decide) (by rw [together.oldSeq,reached]; decide)
      (by rw [together.label]; decide)
  have equal : issue.value = (composeId sampleId.message 100000 sampleAfter).value := by
    rw [value,composeId_sameHour _ _ _ _ together,reached]
    rfl
  have batches : final (serve (sampleConfig 100000) sampleTime) sampleServed
      (replicate 8192 (sampleSeq 65535)) = drawn := batches
  have batch : serve (sampleConfig 100000) sampleTime drawn (sampleSeq 8191) = (after,none) := batch
  have issued : (serve (sampleConfig 100000) sampleTime after sampleId).2 = some issue := issued
  unfold uniqIds sampleArrivals
  rw [outputs_cons,first,outputs_append,batches,outputs_cons,batch,outputs_cons,issued]
  exact repeated_value equal

end Mooon.UniqId.Agent

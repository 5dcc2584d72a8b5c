import Mooon.UniqId.Client

/-! The attempts of a call of `CUniqId`: what the client sends to which agent, what comes back, and
when it gives up. `Client.tryAgents` keeps the result of the same loop only. -/
namespace Mooon.UniqId.Attempts
open Mooon.UniqId.Client List

def errorUnexcepted : UInt32 := 201600011

structure Address where
  ip : UInt32
  port : UInt16
deriving DecidableEq

/-- What `recvfrom` returns: the number of bytes, the sender and the content of the buffer. -/
structure Datagram where
  bytes : Int
  sender : Address
  head : MessageHead
deriving DecidableEq

/-- One attempt: the agent that `pick_agent` returns, and the results of `send_to` and of
`timed_receive_from`, each with the error code of its exception. A timeout is `ETIMEDOUT`. -/
structure Attempt where
  agent : Address
  sent : Except Int Int
  received : Except Int Datagram

def Attempt.message (attempt : Attempt) : Except Failure MessageHead :=
  match attempt.sent with
  | .error errcode => .error (.syscall errcode)
  | .ok bytes =>
    if bytes ≠ messageHeadSize.toNat then .error (.syscall bytes)
    else
      match attempt.received with
      | .error errcode => .error (.syscall errcode)
      | .ok datagram =>
        if datagram.bytes ≠ messageHeadSize.toNat then .error (.syscall datagram.bytes)
        else if attempt.agent ≠ datagram.sender then .error (.exception errorUnexcepted)
        else .ok datagram.head

def labelRequest (echo : UInt32) : MessageHead := request requestLabel echo 0 0

def uniqSeqRequest (num : UInt16) (echo : UInt32) : MessageHead := request requestUniqSeq echo num.toUInt32 0

def acceptLabel (echo : UInt32) (response : MessageHead) : Except Failure UInt8 :=
  match checkResponse responseLabel echo response with
  | .error failure => .error failure
  | .ok response =>
    if 255 ≤ response.value1 ∨ response.value1 < 1 then .error (.exception errorInvalidLabel)
    else .ok response.value1.toUInt8

def acceptUniqSeq (echo : UInt32) (response : MessageHead) : Except Failure UInt32 :=
  (checkResponse responseUniqSeq echo response).map MessageHead.value1

section
variable {Result : Type} (attempts : Nat → Attempt)

def sending (request : MessageHead) (retry : Nat) : Address × MessageHead := ((attempts retry).agent,request)

def respond (accept : MessageHead → Except Failure Result) (retry : Nat) : Except Failure Result :=
  (attempts retry).message.bind accept

def exchange (retryTimes : Nat) (request : MessageHead) (accept : MessageHead → Except Failure Result) :
    Nat → List (Address × MessageHead) × Except Failure (Option Result)
  | 0 => ([],.ok none)
  | left+1 =>
    let retry := retryTimes - left
    match respond attempts accept retry with
    | .ok result => ([sending attempts request retry],.ok (some result))
    | .error failure =>
      -- both handlers throw again under this test, which the bound of the loop does not have
      if retryTimes = 0 ∨ retryTimes ≤ retry + 1 then ([sending attempts request retry],.error failure)
      else
        let later := exchange retryTimes request accept left
        (sending attempts request retry :: later.1,later.2)

structure Called (Result : Type) where
  client : CUniqId
  sent : List (Address × MessageHead)
  result : Except Failure Result

variable (random : UInt32) (client : CUniqId)

def call (request : UInt32 → MessageHead) (accept : UInt32 → MessageHead → Except Failure Result)
    (otherwise : Result) : Called Result :=
  let echo := getEcho random client.echo
  let outcome := exchange attempts client.retryTimes.toNat (request echo) (accept echo)
    (client.retryTimes.toNat+1)
  ⟨{client with echo := echo + 1},outcome.1,outcome.2.map fun found => found.getD otherwise⟩

def getLabel : Called UInt8 := call attempts random client labelRequest acceptLabel 0

def getUnqiSeq (num : UInt16) : Called UInt32 :=
  call attempts random client (uniqSeqRequest num) acceptUniqSeq 0

def getUniqId (user : UInt8) (currentSeconds : UInt64) : Called UInt64 :=
  call attempts random client (fun echo => uniqIdRequest echo user currentSeconds) acceptUniqId 0

def getLabelAndSeq (num : UInt16) : Called (UInt8 × UInt32) :=
  call attempts random client (fun echo => labelAndSeqRequest echo num) acceptLabelAndSeq (0,0)

theorem exchange_result {retryTimes : Nat} {req : MessageHead} {accept : MessageHead → Except Failure Result}
    {left : Nat} : (exchange attempts retryTimes req accept left).2 =
      tryAgents retryTimes (fun retry => (attempts retry).message) accept left := by
  induction left with
  | zero => rfl
  | succ left ih =>
    unfold exchange tryAgents respond
    dsimp only
    cases (attempts (retryTimes - left)).message.bind accept with
    | ok res => rfl
    | error failure =>
      rw [← ih]
      split_ifs <;> rfl

theorem getUniqId_refines {user : UInt8} {currentSeconds : UInt64} :
    let called := getUniqId attempts random client user currentSeconds
    (called.client,called.result) =
      Client.getUniqId (fun _ retry => (attempts retry).message) random client user currentSeconds := by
  simp only [getUniqId,call,Client.getUniqId,exchange_result]

theorem getLabelAndSeq_refines {num : UInt16} :
    let called := getLabelAndSeq attempts random client num
    (called.client,called.result) =
      Client.getLabelAndSeq (fun _ retry => (attempts retry).message) random client num := by
  simp only [getLabelAndSeq,call,Client.getLabelAndSeq,exchange_result]

end

section
variable {Result : Type} {attempts : Nat → Attempt} {retryTimes : Nat} {request : MessageHead}
  {accept : MessageHead → Except Failure Result} {left : Nat} {value : Result}

theorem exchange_good (replied : respond attempts accept (retryTimes-left) = .ok value) :
    exchange attempts retryTimes request accept (left+1) =
      ([sending attempts request (retryTimes-left)],.ok (some value)) := by
  rw [exchange]
  rw [replied]

variable {failure : Failure}

theorem exchange_last (failed : respond attempts accept (retryTimes-left) = .error failure)
    (last : left ≤ 1) : exchange attempts retryTimes request accept (left+1) =
      ([sending attempts request (retryTimes-left)],.error failure) := by
  rw [exchange]
  rw [failed]
  exact if_pos (by omega)

theorem exchange_again (failed : respond attempts accept (retryTimes-(left+2)) = .error failure)
    (bound : left+2 ≤ retryTimes) :
    exchange attempts retryTimes request accept (left+3) =
      (sending attempts request (retryTimes-(left+2)) ::
        (exchange attempts retryTimes request accept (left+2)).1,
        (exchange attempts retryTimes request accept (left+2)).2) := by
  rw [exchange]
  rw [failed]
  exact if_neg (by omega)

variable {good : Nat}

theorem exchange_answered (replied : respond attempts accept good = .ok value)
    (first : ∀ retry < good, ∃ failure, respond attempts accept retry = .error failure)
    (allowed : good < retryTimes ∨ retryTimes = 0) (reached : retryTimes - left ≤ good)
    (bound : left ≤ retryTimes) (inside : good ≤ retryTimes) :
    exchange attempts retryTimes request accept (left+1) =
      ((range' (retryTimes-left) (good+1-(retryTimes-left))).map (sending attempts request),
        .ok (some value)) := by
  induction left with
  | zero =>
    have here : retryTimes - 0 = good := by omega
    rw [exchange_good (here ▸ replied),here,Nat.add_sub_cancel_left]
    rfl
  | succ left ih =>
    by_cases here : retryTimes - (left+1) = good
    · rw [exchange_good (here ▸ replied),here,Nat.add_sub_cancel_left]
      rfl
    · obtain ⟨failure,failed⟩ := first (retryTimes-(left+1)) (by omega)
      have next : retryTimes - left = retryTimes-(left+1) + 1 := by omega
      have count : good + 1 - (retryTimes-(left+1)) = good + 1 - (retryTimes-left) + 1 := by omega
      obtain ⟨before,rfl⟩ : ∃ before, left = before+1 := ⟨left-1,by omega⟩
      rw [exchange_again failed bound,ih (by omega) (by omega),count,range'_succ,map_cons,← next]

theorem exchange_gave_up
    (failed : ∀ retry < retryTimes, ∃ failure, respond attempts accept retry = .error failure)
    (left : Nat) (bound : left < retryTimes) :
    ∃ failure, exchange attempts retryTimes request accept (left+2) =
      ((range' (retryTimes-(left+1)) (left+1)).map (sending attempts request),.error failure) := by
  induction left with
  | zero =>
    obtain ⟨failure,here⟩ := failed (retryTimes-1) (by omega)
    exact ⟨failure,exchange_last here le_rfl⟩
  | succ left ih =>
    obtain ⟨failure,here⟩ := failed (retryTimes-(left+2)) (by omega)
    obtain ⟨last,later⟩ := ih (by omega)
    have next : retryTimes - (left+1) = retryTimes-(left+2) + 1 := by omega
    rw [next] at later
    refine ⟨last,?_⟩
    rw [exchange_again here bound,later]
    rfl

/-- The request is sent until the first good response, at most once more than `retryTimes`, and the
value of that response is the result; an error is thrown only after all of these attempts have
failed. -/
structure Served (attempts : Nat → Attempt) (retryTimes : Nat) (request : MessageHead)
    (accept : MessageHead → Except Failure Result) (called : Called Result) : Prop where
  answered : ∀ good ≤ retryTimes, ∀ value, respond attempts accept good = .ok value →
    (∀ retry < good, ∃ failure, respond attempts accept retry = .error failure) →
      called.sent = (List.range (good+1)).map (sending attempts request) ∧ called.result = .ok value
  refused : (∀ retry ≤ retryTimes, ∃ failure, respond attempts accept retry = .error failure) →
    called.sent = (List.range (retryTimes+1)).map (sending attempts request) ∧
      ∃ failure, called.result = .error failure

theorem respond_cases {retry : Nat} : (∃ value, respond attempts accept retry = .ok value) ∨
      ∃ failure, respond attempts accept retry = .error failure := by
  cases respond attempts accept retry with
  | ok value => exact .inl ⟨value,rfl⟩
  | error failure => exact .inr ⟨failure,rfl⟩

theorem first_good {bound : Nat} : (∃ good < bound, ∃ value, respond attempts accept good = .ok value ∧
      ∀ retry < good, ∃ failure, respond attempts accept retry = .error failure) ∨
      ∀ retry < bound, ∃ failure, respond attempts accept retry = .error failure := by
  induction bound with
  | zero => exact .inr fun retry bad => absurd bad (Nat.not_lt_zero retry)
  | succ bound ih =>
    rcases ih with ⟨good,inside,found⟩ | failed
    · exact .inl ⟨good,by omega,found⟩
    · rcases respond_cases with ⟨value,here⟩ | here
      · exact .inl ⟨bound,by omega,value,here,failed⟩
      · refine .inr fun retry inside => ?_
        rcases Nat.lt_succ_iff_lt_or_eq.mp inside with before | rfl
        · exact failed retry before
        · exact here

theorem first_unique {one other : Nat} {left right : Result}
    (replied : respond attempts accept one = .ok left) (answered' : respond attempts accept other = .ok right)
    (first : ∀ retry < one, ∃ failure, respond attempts accept retry = .error failure)
    (first' : ∀ retry < other, ∃ failure, respond attempts accept retry = .error failure) : one = other := by
  rcases Nat.lt_trichotomy one other with less | same | greater
  · obtain ⟨failure,failed⟩ := first' one less
    rw [replied] at failed
    cases failed
  · exact same
  · obtain ⟨failure,failed⟩ := first other greater
    rw [answered'] at failed
    cases failed

variable {called : Called Result}

theorem served_answered (replied : respond attempts accept good = .ok value)
    (first : ∀ retry < good, ∃ failure, respond attempts accept retry = .error failure)
    (inside : good ≤ retryTimes)
    (sent : called.sent = (range (good+1)).map (sending attempts request))
    (res : called.result = .ok value) : Served attempts retryTimes request accept called := by
  constructor
  · intro other _ found answered' first'
    have same := first_unique replied answered' first first'
    subst same
    rw [replied] at answered'
    cases answered'
    exact ⟨sent,res⟩
  · intro failed
    obtain ⟨failure,bad⟩ := failed good inside
    rw [replied] at bad
    cases bad

theorem served_single (failed : respond attempts accept 0 = .error failure)
    (sent : called.sent = [sending attempts request 0])
    (res : called.result = .error failure) : Served attempts 0 request accept called := by
  constructor
  · intro good none value replied
    rw [Nat.le_zero.mp none,failed] at replied
    cases replied
  · intro _
    exact ⟨sent,failure,res⟩

variable (attempts request accept) in
theorem call_served_iff {client : CUniqId} {otherwise : Result} :
    Served attempts retryTimes request accept
      ⟨client,(exchange attempts retryTimes request accept (retryTimes+1)).1,
        (exchange attempts retryTimes request accept (retryTimes+1)).2.map fun found =>
          found.getD otherwise⟩ ↔
      retryTimes = 0 ∨ ∃ good < retryTimes, ∃ value, respond attempts accept good = .ok value := by
  have start := Nat.sub_self retryTimes
  rcases first_good with ⟨good,inside,value,replied,first⟩ | failed
  · have ended : exchange attempts retryTimes request accept (retryTimes+1) = _ :=
      exchange_answered replied first (.inl inside) (by omega) le_rfl (by omega)
    rw [ended,start,← range_eq_range']
    refine iff_of_true (served_answered replied first (by omega) rfl rfl) (.inr ⟨good,inside,value,replied⟩)
  · cases retryTimes with
    | zero =>
      refine iff_of_true ?_ (.inl rfl)
      rcases respond_cases with ⟨value,replied⟩ | ⟨failure,failed⟩
      · rw [exchange_good replied]
        exact served_answered replied (fun retry none => absurd none (Nat.not_lt_zero retry)) le_rfl rfl rfl
      · rw [exchange_last failed (by omega)]
        exact served_single failed rfl rfl
    | succ retryTimes =>
      -- the last attempt is missing, whatever it would have brought
      obtain ⟨failure,ended⟩ :=
        exchange_gave_up failed retryTimes (by omega)
      rw [ended]
      refine iff_of_false ?_ ?_
      · intro served
        rcases respond_cases with ⟨value,replied⟩ | last
        · cases (served.answered _ le_rfl value replied failed).2
        · have all : ∀ retry ≤ retryTimes+1, ∃ failure, respond attempts accept retry = .error failure := by
            intro retry inside
            rcases Nat.lt_or_eq_of_le inside with before | rfl
            · exact failed retry before
            · exact last
          have sent := congrArg length (served.refused all).1
          simp at sent
      · rintro (bad | ⟨good,inside,value,replied⟩)
        · cases bad
        · obtain ⟨failure,bad⟩ := failed good inside
          rw [replied] at bad
          cases bad

end

def Answered {Result : Type} (attempts : Nat → Attempt) (accept : MessageHead → Except Failure Result)
    (retryTimes : Nat) : Prop :=
  ∃ good < retryTimes, ∃ value, respond attempts accept good = .ok value

theorem make_retryTimes (echo : UInt32) (retryTimes : UInt8) :
    (CUniqId.make echo retryTimes).retryTimes.toNat = min retryTimes.toNat retryMax.toNat := by
  unfold CUniqId.make
  dsimp only
  split_ifs with greater
  · have greater := UInt8.lt_iff_toNat_lt.mp greater
    omega
  · have smaller : ¬ retryMax.toNat < retryTimes.toNat := fun less => greater (UInt8.lt_iff_toNat_lt.mpr less)
    omega

/-- Each call serves its retries exactly when there are none, or when it does not need the last of them. -/
theorem retries_served_iff (attempts : Nat → Attempt) (random echo : UInt32) (retryTimes : UInt8) :
    let client := CUniqId.make echo retryTimes
    let times := min retryTimes.toNat retryMax.toNat
    let current := getEcho random echo
    (Served attempts times (labelRequest current) (acceptLabel current) (getLabel attempts random client) ↔
      retryTimes = 0 ∨ Answered attempts (acceptLabel current) times) ∧
    (∀ num, Served attempts times (uniqSeqRequest num current) (acceptUniqSeq current)
        (getUnqiSeq attempts random client num) ↔
      retryTimes = 0 ∨ Answered attempts (acceptUniqSeq current) times) ∧
    (∀ user seconds, Served attempts times (uniqIdRequest current user seconds) (acceptUniqId current)
        (getUniqId attempts random client user seconds) ↔
      retryTimes = 0 ∨ Answered attempts (acceptUniqId current) times) ∧
    (∀ num, Served attempts times (labelAndSeqRequest current num) (acceptLabelAndSeq current)
        (getLabelAndSeq attempts random client num) ↔
      retryTimes = 0 ∨ Answered attempts (acceptLabelAndSeq current) times) := by
  intro client times current
  have counted := make_retryTimes echo retryTimes
  have zero : retryTimes = 0 ↔ times = 0 := by
    rw [← UInt8.toNat_inj]
    have most : retryMax.toNat = 128 := by decide
    have none : (0 : UInt8).toNat = 0 := by decide
    omega
  have served {Result : Type} (request : UInt32 → MessageHead)
      (accept : UInt32 → MessageHead → Except Failure Result) (otherwise : Result) :
      Served attempts times (request current) (accept current)
        (call attempts random client request accept otherwise) ↔
        retryTimes = 0 ∨ Answered attempts (accept current) times := by
    unfold call
    rw [counted,zero]
    exact call_served_iff attempts (request current) (accept current)
  refine ⟨served labelRequest acceptLabel 0,?_,?_,?_⟩
  · intro num
    exact served (uniqSeqRequest num) acceptUniqSeq 0
  · intro user seconds
    exact served (fun echo => uniqIdRequest echo user seconds) acceptUniqId 0
  · intro num
    exact served (fun echo => labelAndSeqRequest echo num) acceptLabelAndSeq (0,0)

theorem message_received {attempt : Attempt} {head : MessageHead}
    (sent : attempt.sent = .ok messageHeadSize.toNat)
    (got : attempt.received = .ok ⟨messageHeadSize.toNat,attempt.agent,head⟩) :
    attempt.message = .ok head := by
  unfold Attempt.message
  rw [sent,got]
  dsimp only
  rw [if_neg (not_not_intro rfl),if_neg (not_not_intro rfl),if_neg (not_not_intro rfl)]

def secondAnswers (current : UInt32) (retry : Nat) : Attempt where
  agent := ⟨0,6200⟩
  sent := .ok 32
  received := if retry = 0 then
    .error 110 else .ok ⟨32,⟨0,6200⟩,response responseLabel (labelRequest current) 7 0 0⟩

theorem respond_second {cur : UInt32} : respond (secondAnswers cur) (acceptLabel cur) 1 = .ok 7 := by
  have checked := checkResponse_response (by decide : responseLabel ≠ responseError) (labelRequest cur) 7 0 0
  have asked : (labelRequest cur).echo = cur := rfl
  rw [asked] at checked
  have brought : (secondAnswers cur 1).message = .ok (response responseLabel (labelRequest cur) 7 0 0) :=
    message_received rfl rfl
  unfold respond
  rw [brought]
  dsimp only [Except.bind]
  unfold acceptLabel
  rw [checked]
  rfl

theorem retry_missing : respond (secondAnswers 1357) (acceptLabel 1357) 1 = .ok 7 ∧
      (getLabel (secondAnswers 1357) 0 (CUniqId.make 1357 1)).sent =
        [sending (secondAnswers 1357) (labelRequest 1357) 0] ∧
      (getLabel (secondAnswers 1357) 0 (CUniqId.make 1357 1)).result = .error timedOut := by
  exact ⟨respond_second,rfl,rfl⟩

end Mooon.UniqId.Attempts

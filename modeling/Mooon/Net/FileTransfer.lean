import Mooon.Net.FullTransfer

/-! The loops of `CDataChannel` between a connection and a file: `full_send_file`, which lets
`sendfile` read the file, and `full_write_tofile`, which writes what it receives through a buffer of
one page. -/
namespace Mooon.Net.DataChannel
open List Function UInt8

/-- How a call ends, with what `count` or `size` is then. -/
inductive FileAnswer where
  | returned (full : Bool) (reported : Nat)
  | threw (errno : Int) (reported : Nat)
  | running
deriving DecidableEq

/-- The bytes that were sent, and the pointer that each `sendfile` was given, counted in `off_t`
from the variable of the caller; a call that has not returned is among them. -/
structure FileSent where
  sent : Bytes
  given : List Nat
  answer : FileAnswer
deriving DecidableEq

/-- The loop of `full_send_file` over the `off_t` values in memory. The number of bytes is added to
the pointer. -/
def sendFileLoop (file : Bytes) (count : Nat) : List (List Syscall) → (Nat → Nat) → Nat → Nat → FileSent
  | _, _, _, 0 => ⟨[],[],.returned true count⟩
  | [], _, pointer, _ => ⟨[],[pointer],.running⟩
  | call::rest, offsets, pointer, remaining =>
    match sendFile file (offsets pointer) remaining call with
    | .error errno => ⟨[],[pointer],.threw errno count⟩
    | .ok none => ⟨[],[pointer],.threw ewouldblock (count - remaining)⟩
    | .ok (some bytes) =>
      let later := sendFileLoop file count rest
        (Function.update offsets pointer (offsets pointer + bytes.length))
        (pointer + bytes.length) (remaining - bytes.length)
      ⟨bytes ++ later.sent,pointer::later.given,later.answer⟩

def fullSendFile (file : Bytes) (offsets : Nat → Nat) (count : Nat)
    (calls : List (List Syscall)) : FileSent :=
  sendFileLoop file count calls offsets 0 count

def eio : Int := 5

/-- A `receive`, and the number of bytes that the `pwrite` behind it takes, if it does not fail. -/
structure Round where
  recv : List Recv
  pwrite : Except Int Nat

/-- The sizes that `recv` was asked for, the places in the file where bytes of the stream went, and
the number of bytes that were received. -/
structure FileWritten where
  requests : List Nat
  stores : List (Nat × UInt8)
  received : Nat
  answer : FileAnswer
deriving DecidableEq

def storeFile (stream : Nat → UInt8) (consumed current size : Nat) : List (Nat × UInt8) :=
  (List.range size).map fun i => (current + i,stream (consumed + i))

/-- The loop of `full_write_tofile`. An empty rest makes `receive` throw before it calls `recv`. -/
def writeLoop (stream : Nat → UInt8) (size : Nat) : List Round → Nat → Nat → Nat → FileWritten
  | _, _, _, 0 => ⟨[],[],0,.threw einval size⟩
  | [], _, _, remaining => ⟨[remaining],[],0,.running⟩
  | round::rest, consumed, current, remaining =>
    match receive remaining round.recv with
    | .error errno => ⟨[remaining],[],0,.threw errno size⟩
    | .ok none => ⟨[remaining],[],0,.returned false (size - remaining)⟩
    | .ok (some count) =>
      if count = 0 then ⟨[remaining],[],0,.threw (-1) (size - remaining)⟩
      else
        match round.pwrite with
        | .error errno => ⟨[remaining],[],count,.threw errno (size - remaining)⟩
        | .ok written =>
          if min written count ≠ count then
            ⟨[remaining],storeFile stream consumed current (min written count),count,
              .threw eio (size - remaining)⟩
          else if remaining - count = 0 then
            ⟨[remaining],storeFile stream consumed current count,count,.returned true size⟩
          else
            let later := writeLoop stream size rest (consumed + count) (current + count) (remaining - count)
            ⟨remaining::later.requests,storeFile stream consumed current count ++ later.stores,
              count + later.received,later.answer⟩

def fullWriteToFile (stream : Nat → UInt8) (offset size : Nat) (rounds : List Round) : FileWritten :=
  writeLoop stream size rounds 0 offset size

/-- Every `sendfile` gets the variable of the caller, what is sent is the range from its beginning
on, and all of it where the call returns. -/
structure SendsRange (file : Bytes) (offset count : Nat) (result : FileSent) : Prop where
  given : ∀ pointer ∈ result.given, pointer = 0
  sent : result.sent.IsPrefix ((file.drop offset).take count)
  whole : ∀ full reported, result.answer = .returned full reported →
    result.sent = (file.drop offset).take count ∧ result.sent.length = count ∧ reported = count

/-- The first `sendfile` takes all bytes, unless there are none in the file. -/
def TakesAll (file : Bytes) (offset count : Nat) (calls : List (List Syscall)) : Prop :=
  ∀ call ∈ calls.head?, ∀ size, sendMove call = .taken size →
    file.length ≤ offset ∨ count ≤ min size (file.length - offset)

section
variable {file : Bytes} {count : Nat} {left : Nat} {call : List Syscall}

theorem sendFileLoop_taken {size : Nat} (taken : sendMove call = .taken size)
    (pos : left ≠ 0) {rest : List (List Syscall)} {offsets : Nat → Nat} {pointer : Nat} :
    let bytes := ((file.drop (offsets pointer)).take left).take size
    let later := sendFileLoop file count rest (update offsets pointer (offsets pointer + bytes.length))
      (pointer + bytes.length) (left - bytes.length)
    sendFileLoop file count (call::rest) offsets pointer left =
      ⟨bytes ++ later.sent,pointer::later.given,later.answer⟩ := by
  rw [sendFileLoop,sendFile,offer_eq,taken]
  · rfl
  · exact pos

theorem sendFileLoop_stopped (stopped : ∀ size, sendMove call ≠ .taken size)
    (pos : left ≠ 0) (rest : List (List Syscall)) (offsets : Nat → Nat) (pointer : Nat) :
    ∃ errno reported, sendFileLoop file count (call::rest) offsets pointer left =
      ⟨[],[pointer],.threw errno reported⟩ := by
  rw [sendFileLoop,sendFile,offer_eq]
  · cases move : sendMove call with
    | taken size => exact absurd move (stopped size)
    | blocked | ended | failed errno => exact ⟨_,_,rfl⟩
  · exact pos

theorem sendFileLoop_nil (pos : left ≠ 0) (offsets : Nat → Nat) (pointer : Nat) :
    sendFileLoop file count [] offsets pointer left = ⟨[],[pointer],.running⟩ := by
  obtain ⟨left,rfl⟩ := Nat.exists_eq_succ_of_ne_zero pos
  rfl

variable (calls : List (List Syscall)) (offsets : Nat → Nat) (pointer : Nat)

theorem sendFileLoop_zero :
    sendFileLoop file count calls offsets pointer 0 = ⟨[],[],.returned true count⟩ := by
  unfold sendFileLoop
  rfl

-- while there are bytes left, another call is on its way with the pointer
theorem sendFileLoop_given (pos : left ≠ 0) :
    pointer ∈ (sendFileLoop file count calls offsets pointer left).given := by
  cases calls with
  | nil =>
    rw [sendFileLoop_nil pos]
    exact mem_cons_self
  | cons call rest =>
    rcases Classical.exists_or_forall_not (sendMove call = .taken ·) with ⟨size,taken⟩ | stopped
    · rw [sendFileLoop_taken taken pos]
      exact mem_cons_self
    · obtain ⟨errno,reported,same⟩ := sendFileLoop_stopped stopped pos rest offsets pointer
      rw [same]
      exact mem_cons_self

variable (count) in
theorem sendFileLoop_nothing {offsets : Nat → Nat} (pos : left ≠ 0) (behind : file.length ≤ offsets 0) :
    (∀ pointer ∈ (sendFileLoop file count calls offsets 0 left).given, pointer = 0) ∧
      (sendFileLoop file count calls offsets 0 left).sent = [] ∧
      ∀ full reported, (sendFileLoop file count calls offsets 0 left).answer ≠ .returned full reported := by
  induction calls with
  | nil =>
    rw [sendFileLoop_nil pos]
    exact ⟨by simp,rfl,by simp⟩
  | cons call rest ih =>
    rcases Classical.exists_or_forall_not (sendMove call = .taken ·) with ⟨size,taken⟩ | stopped
    · have empty : ((file.drop (offsets 0)).take left).take size = [] := by
        rw [drop_eq_nil_of_le behind,take_nil,take_nil]
      have unchanged : update offsets 0 (offsets 0 + ([] : Bytes).length) = offsets :=
        update_eq_self 0 offsets
      rw [sendFileLoop_taken taken pos,empty,unchanged]
      obtain ⟨given,sent,answer⟩ := ih
      exact ⟨forall_mem_cons.mpr ⟨rfl,given⟩,sent,answer⟩
    · obtain ⟨errno,reported,same⟩ := sendFileLoop_stopped stopped pos rest offsets 0
      rw [same]
      exact ⟨by simp,rfl,by simp⟩

theorem sends_behind {offsets : Nat → Nat} (pos : count ≠ 0)
    (behind : file.length ≤ offsets 0) :
    SendsRange file (offsets 0) count (fullSendFile file offsets count calls) := by
  obtain ⟨given,sent,answer⟩ := sendFileLoop_nothing count calls pos behind
  refine ⟨given,?_,fun full reported gave => absurd gave (answer full reported)⟩
  rw [fullSendFile,sent]
  exact nil_prefix

section
variable {call : List Syscall} {size : Nat} (taken : sendMove call = .taken size) (pos : count ≠ 0)
  (rest : List (List Syscall)) {offsets : Nat → Nat}
include taken pos

theorem sends_taken (all : count ≤ min size (file.length - offsets 0)) :
    SendsRange file (offsets 0) count (fullSendFile file offsets count (call::rest)) := by
  have whole : ((file.drop (offsets 0)).take count).take size = (file.drop (offsets 0)).take count := by
    apply take_of_length_le
    rw [length_take]
    omega
  have exact : ((file.drop (offsets 0)).take count).length = count := by
    rw [length_take,length_drop]
    omega
  rw [fullSendFile,sendFileLoop_taken taken pos,whole,exact,Nat.sub_self,sendFileLoop_zero,append_nil]
  refine ⟨by simp,prefix_rfl,?_⟩
  rintro full reported ⟨⟩
  exact ⟨rfl,exact,rfl⟩

theorem not_sends_short (inside : ¬file.length ≤ offsets 0)
    (short : ¬count ≤ min size (file.length - offsets 0)) :
    ¬SendsRange file (offsets 0) count (fullSendFile file offsets count (call::rest)) := by
  intro sends
  have length : (((file.drop (offsets 0)).take count).take size).length =
      min size (min count (file.length - offsets 0)) := by
    simp
  have some := sendMove_pos taken
  rw [fullSendFile,sendFileLoop_taken taken pos] at sends
  have left : count - (((file.drop (offsets 0)).take count).take size).length ≠ 0 := by omega
  have moved := sends.given _ (mem_cons_of_mem _ (sendFileLoop_given rest _ _ left))
  omega

end

end

theorem sends_range_iff (file : Bytes) (offsets : Nat → Nat) (count : Nat) (calls : List (List Syscall)) :
    SendsRange file (offsets 0) count (fullSendFile file offsets count calls) ↔
      TakesAll file (offsets 0) count calls := by
  by_cases pos : count = 0
  · subst pos
    rw [fullSendFile,sendFileLoop_zero]
    refine iff_of_true ⟨by simp,by simp,?_⟩ ?_
    · rintro full reported ⟨⟩
      simp
    · intro call _ size _
      exact Or.inr (Nat.zero_le _)
  · cases calls with
    | nil =>
      rw [fullSendFile,sendFileLoop_nil pos]
      exact iff_of_true ⟨by simp,by simp,by simp⟩ (by simp [TakesAll])
    | cons call rest =>
      rcases Classical.exists_or_forall_not (sendMove call = .taken ·) with ⟨size,taken⟩ | stopped
      · have cond : TakesAll file (offsets 0) count (call::rest) ↔
            file.length ≤ offsets 0 ∨ count ≤ min size (file.length - offsets 0) := by
          simp [TakesAll,taken]
        rw [cond]
        constructor
        · intro sends
          by_contra neither
          obtain ⟨inside,short⟩ := not_or.mp neither
          exact not_sends_short taken pos rest inside short sends
        · rintro (behind | all)
          · exact sends_behind (call::rest) pos behind
          · exact sends_taken taken pos rest all
      · obtain ⟨errno,reported,same⟩ := sendFileLoop_stopped stopped pos rest offsets 0
        rw [fullSendFile,same]
        refine iff_of_true ⟨by simp,by simp,by simp⟩ ?_
        intro other first size taken
        cases first
        exact absurd taken (stopped size)

def FileAnswer.reported : FileAnswer → Option Nat
  | .returned _ reported => some reported
  | .threw _ reported => some reported
  | .running => none

/-- No `recv` is asked for more than a page, the bytes of the stream are at consecutive places from
the offset on, all that were received unless the call throws, and the caller is told how many. -/
structure WritesReceived (page : Nat) (stream : Nat → UInt8) (offset : Nat)
    (result : FileWritten) : Prop where
  requests : ∀ request ∈ result.requests, request ≤ page
  stores : result.stores = storeFile stream 0 offset result.stores.length
  received : (∀ errno reported, result.answer ≠ .threw errno reported) →
    result.received = result.stores.length
  reported : ∀ reported ∈ result.answer.reported, reported = result.stores.length

/-- Of the rounds that the loop comes to, no `recv` fails, and each `pwrite` takes all bytes or none. -/
def Sound : Nat → List Round → Prop
  | _, [] => True
  | remaining, round::rest =>
    remaining ≠ 0 →
      match recvMove round.recv with
      | .failed _ => False
      | .taken count => ∀ written, round.pwrite = .ok written →
        written = 0 ∨ min count remaining ≤ written ∧ Sound (remaining - count) rest
      | _ => True

/-- What the loop does from a place on with something left, and when it tells the caller the truth. -/
structure Looped (stream : Nat → UInt8) (consumed current remaining : Nat) (rounds : List Round)
    (result : FileWritten) : Prop where
  asked : remaining ∈ result.requests
  requests : ∀ request ∈ result.requests, request ≤ remaining
  stores : result.stores = storeFile stream consumed current result.stores.length
  received : (∀ errno reported, result.answer ≠ .threw errno reported) →
    result.received = result.stores.length
  reported : (∀ reported ∈ result.answer.reported, reported = consumed + result.stores.length) ↔
    Sound remaining rounds

variable (stream : Nat → UInt8) {consumed cur size : Nat}

@[simp] theorem length_storeFile :
    (storeFile stream consumed cur size).length = size := by
  rw [storeFile,length_map,length_range]

theorem storeFile_append {first second : Nat} :
    storeFile stream consumed cur first ++ storeFile stream (consumed + first) (cur + first) second =
      storeFile stream consumed cur (first + second) := by
  simp only [storeFile,range_add,map_append,map_map,comp_def,Nat.add_assoc]

section
variable {stream : Nat → UInt8} {consumed cur left : Nat} {round : Round} {rest : List Round}
  {rounds : List Round}

theorem looped_last {received : Nat} {answer : FileAnswer} (stored : Nat)
    (whole : (∀ errno reported, answer ≠ .threw errno reported) → received = stored)
    (told : (∀ reported ∈ answer.reported, reported = consumed + stored) ↔ Sound left rounds) :
    Looped stream consumed cur left rounds
      ⟨[left],storeFile stream consumed cur stored,received,answer⟩ where
  asked := mem_cons_self
  requests := by simp
  stores := by rw [length_storeFile]
  received := by
    rw [length_storeFile]
    exact whole
  reported := by
    rw [length_storeFile]
    exact told

variable {count : Nat}

theorem looped_cons {later : FileWritten}
    (next : Looped stream (consumed + count) (cur + count) (left - count) rest later)
    (same : Sound left rounds ↔ Sound (left - count) rest) :
    Looped stream consumed cur left rounds
      ⟨left::later.requests,storeFile stream consumed cur count ++ later.stores,count + later.received,
        later.answer⟩ where
  asked := mem_cons_self
  requests := by
    refine forall_mem_cons.mpr ⟨Nat.le_refl left,?_⟩
    intro req mem
    exact Nat.le_trans (next.requests req mem) (Nat.sub_le left count)
  stores := by
    rw [length_append,length_storeFile,← storeFile_append,← next.stores]
  received := by
    intro calm
    rw [length_append,length_storeFile,next.received calm]
  reported := by
    rw [length_append,length_storeFile,← Nat.add_assoc,same]
    exact next.reported

variable {errno : Int}

theorem sound_failed (pos : left ≠ 0) (move : recvMove round.recv = .failed errno) :
    ¬Sound left (round::rest) := by
  simp [Sound,move,pos]

theorem sound_quiet (move : recvMove round.recv = .blocked ∨ recvMove round.recv = .ended) :
    Sound left (round::rest) := by
  rcases move with move | move
  · simp [Sound,move]
  · simp [Sound,move]

theorem sound_taken (pos : left ≠ 0) (move : recvMove round.recv = .taken count) :
    Sound left (round::rest) ↔ ∀ written, round.pwrite = .ok written →
      written = 0 ∨ min count left ≤ written ∧ Sound (left - count) rest := by
  simp [Sound,move,pos]

theorem sound_unwritten (pos : left ≠ 0)
    (move : recvMove round.recv = .taken count) (failed : round.pwrite = .error errno) :
    Sound left (round::rest) := by
  apply (sound_taken pos move).mpr
  intro written same
  rw [failed] at same
  cases same

theorem sound_written {amount : Nat} (pos : left ≠ 0) (move : recvMove round.recv = .taken count)
    (written : round.pwrite = .ok amount) :
    Sound left (round::rest) ↔ amount = 0 ∨ min count left ≤ amount ∧ Sound (left - count) rest := by
  simp [sound_taken pos move,written]

theorem sound_zero (rounds : List Round) : Sound 0 rounds := by
  cases rounds with
  | nil => trivial
  | cons round rest => exact fun pos => absurd rfl pos

end

theorem writeLoop_looped {remaining : Nat} (cur : Nat) (rounds : List Round)
    (pos : remaining ≠ 0) (sum : consumed + remaining = size) :
    Looped stream consumed cur remaining rounds (writeLoop stream size rounds consumed cur remaining) := by
  induction rounds generalizing consumed cur remaining with
  | nil =>
    have running : writeLoop stream size [] consumed cur remaining = ⟨[remaining],[],0,.running⟩ := by
      obtain ⟨remaining,rfl⟩ := Nat.exists_eq_succ_of_ne_zero pos
      rfl
    rw [running]
    exact looped_last 0 (fun _ => rfl) (iff_of_true (by simp [FileAnswer.reported]) trivial)
  | cons round rest ih =>
    have left : size - remaining = consumed := by omega
    rw [writeLoop,receive,if_neg pos,recvOffer_eq,left]
    · cases move : recvMove round.recv with
      | failed errno =>
        apply looped_last 0 (fun calm => absurd rfl (calm errno size))
        refine iff_of_false ?_ (sound_failed pos move)
        intro told
        have := told size rfl
        omega
      | blocked =>
        exact looped_last 0 (fun _ => rfl)
          (iff_of_true (by simp [FileAnswer.reported]) (sound_quiet (Or.inl move)))
      | ended =>
        exact looped_last 0 (fun _ => rfl)
          (iff_of_true (by simp [FileAnswer.reported]) (sound_quiet (Or.inr move)))
      | taken count =>
        have some : min count remaining ≠ 0 := by
          have := recvMove_pos move
          omega
        dsimp only [Move.count]
        rw [if_neg some]
        cases written : round.pwrite with
        | error errno =>
          apply looped_last 0 (fun calm => absurd rfl (calm errno consumed))
          exact iff_of_true (by simp [FileAnswer.reported]) (sound_unwritten pos move written)
        | ok amount =>
          have cond : Sound remaining (round::rest) ↔
              amount = 0 ∨ min count remaining ≤ amount ∧ Sound (remaining - count) rest :=
            sound_written pos move written
          dsimp only
          by_cases short : min amount (min count remaining) ≠ min count remaining
          · rw [if_pos short]
            apply looped_last (min amount (min count remaining)) (fun calm => absurd rfl (calm eio consumed))
            have none : (∀ reported ∈ (FileAnswer.threw eio consumed).reported,
                reported = consumed + min amount (min count remaining)) ↔ amount = 0 := by
              simp [FileAnswer.reported]
              omega
            rw [none,cond]
            omega
          · rw [if_neg short]
            have enough : min count remaining ≤ amount := by omega
            by_cases last : remaining - min count remaining = 0
            · rw [if_pos last]
              apply looped_last (min count remaining) (fun _ => rfl)
              have finished : remaining - count = 0 := by omega
              refine iff_of_true ?_ (cond.mpr (Or.inr ⟨enough,finished ▸ sound_zero rest⟩))
              simp [FileAnswer.reported]
              omega
            · rw [if_neg last]
              have same : remaining - min count remaining = remaining - count := by omega
              apply looped_cons (ih _ last (by omega))
              rw [cond,same]
              constructor
              · rintro (none | ⟨-,sound⟩)
                · omega
                · exact sound
              · exact fun sound => Or.inr ⟨enough,sound⟩
    · exact pos

theorem writes_received_iff {page : Nat} {stream : Nat → UInt8} {offset : Nat} {rounds : List Round} :
    WritesReceived page stream offset (fullWriteToFile stream offset size rounds) ↔
      size ≤ page ∧ Sound size rounds := by
  unfold fullWriteToFile
  by_cases pos : size = 0
  · subst pos
    have refused : writeLoop stream 0 rounds 0 offset 0 = ⟨[],[],0,.threw einval 0⟩ := by
      unfold writeLoop
      rfl
    rw [refused]
    refine iff_of_true ⟨by simp,rfl,fun _ => rfl,by simp [FileAnswer.reported]⟩ ?_
    exact ⟨Nat.zero_le page,sound_zero rounds⟩
  · have looped := writeLoop_looped stream offset rounds pos (Nat.zero_add size)
    have told := looped.reported
    rw [Nat.zero_add] at told
    constructor
    · intro writes
      exact ⟨writes.requests size looped.asked,told.mp writes.reported⟩
    · rintro ⟨small,sound⟩
      refine ⟨?_,looped.stores,looped.received,told.mpr sound⟩
      intro req mem
      exact Nat.le_trans (looped.requests req mem) small

/-- A file is sent right exactly when the first `sendfile` that finds bytes takes all of them, and
one is written right exactly when everything fits in the page, no `recv` fails and no `pwrite` is
short. -/
theorem file_transfers_iff (file : Bytes) (offsets : Nat → Nat) (count : Nat)
    (calls : List (List Syscall)) (page : Nat)
    (stream : Nat → UInt8) (offset size : Nat) (rounds : List Round) :
    (SendsRange file (offsets 0) count (fullSendFile file offsets count calls) ↔
        TakesAll file (offsets 0) count calls) ∧
      (WritesReceived page stream offset (fullWriteToFile stream offset size rounds) ↔
        size ≤ page ∧ Sound size rounds) :=
  ⟨sends_range_iff file offsets count calls,writes_received_iff⟩

-- the second `sendfile` starts at the number that stands two places behind the variable; a request
-- for two pages; an error of `recv` that reports all bytes as written
theorem file_transfers_fail :
    (fullSendFile [97,98,99,100] (fun i => if i = 0 then 1 else 0) 3 [[.accepted 2],[.accepted 2]]) =
        ⟨[98,99,97],[0,2],.returned true 3⟩ ∧
          (fullWriteToFile (fun i => ofNat i) 0 8192 []).requests = [8192] ∧
      fullWriteToFile (fun i => ofNat i) 0 3 [⟨[.received 1],.ok 1⟩,⟨[.failed 104],.ok 0⟩] =
        ⟨[3,2],[(0,0)],1,.threw 104 3⟩ ∧ ¬SendsRange [97,98,99,100] 1 3
        (fullSendFile [97,98,99,100] (fun i => if i = 0 then 1 else 0) 3 [[.accepted 2],[.accepted 2]]) ∧
      ¬WritesReceived 4096 (fun i => ofNat i) 0 (fullWriteToFile (fun i => ofNat i) 0 8192 []) ∧
      ¬WritesReceived 4096 (fun i => ofNat i) 0
        (fullWriteToFile (fun i => ofNat i) 0 3 [⟨[.received 1],.ok 1⟩,⟨[.failed 104],.ok 0⟩]) := by
  have sent : fullSendFile [97,98,99,100] (fun i => if i = 0 then 1 else 0) 3 [[.accepted 2],[.accepted 2]] =
      ⟨[98,99,97],[0,2],.returned true 3⟩ := by decide
  have failed : fullWriteToFile (fun i => ofNat i) 0 3 [⟨[.received 1],.ok 1⟩,⟨[.failed 104],.ok 0⟩] =
      ⟨[3,2],[(0,0)],1,.threw 104 3⟩ := by decide
  refine ⟨sent,rfl,failed,?_,?_,?_⟩
  · intro sends
    exact absurd (sends.given 2 (by rw [sent]; decide)) (by decide)
  · intro writes
    exact absurd (writes.requests 8192 mem_cons_self) (by decide)
  · intro writes
    exact absurd (writes.reported 3 (by rw [failed]; rfl)) (by rw [failed]; decide)

end Mooon.Net.DataChannel

import Mooon.Net.DataChannel

/-! The receiving half of `CDataChannel`, and the loops that are to move a whole buffer: `full_send`
and `full_receive`. Positions are counted from the start of the buffer, and may be before it; sizes
are numbers without an upper bound. -/
namespace Mooon.Net.DataChannel
open List Function

inductive Recv where
  | received (size : Nat)
  | closed
  | failed (errno : Int)
deriving DecidableEq

/-- The loop of `receive`: the number of bytes, which is 0 at the end of the stream, or `none` when
it would block. -/
def recvOffer (size : Nat) : List Recv → Except Int (Option Nat)
  | [] => .ok none
  | .received count :: _ => .ok (some (min (max 1 count) size))
  | .closed :: _ => .ok (some 0)
  | .failed errno :: rest =>
    if errno = ewouldblock then .ok none
    else if errno = eintr then recvOffer size rest
    else .error errno

def receive (size : Nat) (results : List Recv) : Except Int (Option Nat) :=
  if size = 0 then .error einval else recvOffer size results

inductive Ending where
  | returned (left : Nat)
  | closed (left : Nat)
  | threw (errno : Int)
  | running
deriving DecidableEq

def readAt (memory : Int → UInt8) (chunk : Int × Nat) : Bytes :=
  (List.range chunk.2).map fun (i : Nat) => memory (chunk.1 + i)

def storeAt (stream : Nat → UInt8) (consumed : Nat) (chunk : Int × Nat) : List (Int × UInt8) :=
  (List.range chunk.2).map fun (i : Nat) => (chunk.1 + i,stream (consumed + i))

/-- The loop of `full_send`: the bytes that were sent of the memory around the buffer. The result -1
of a call that would block is added to the pointer and subtracted from the rest like any other. -/
def sendLoop (memory : Int → UInt8) : List (List Syscall) → Int → Nat → Bytes × Ending
  | _, _, 0 => ([],.returned 0)
  | [], _, _ => ([],.running)
  | call::rest, position, remaining =>
    match send (readAt memory (position,remaining)) call with
    | .error errno => ([],.threw errno)
    | .ok none => sendLoop memory rest (position - 1) (remaining + 1)
    | .ok (some bytes) =>
      let (sent,ending) := sendLoop memory rest (position + bytes.length) (remaining - bytes.length)
      (bytes ++ sent,ending)

def receiveLoop (stream : Nat → UInt8) : List (List Recv) → Nat → Int → Nat → List (Int × UInt8) × Ending
  | _, _, _, 0 => ([],.returned 0)
  | [], _, _, _ => ([],.running)
  | call::rest, consumed, position, remaining =>
    match receive remaining call with
    | .error errno => ([],.threw errno)
    | .ok none => receiveLoop stream rest consumed (position - 1) (remaining + 1)
    | .ok (some count) =>
      if count = 0 then ([],.closed remaining)
      else
        let (stores,ending) := receiveLoop stream rest (consumed + count) (position + count)
          (remaining - count)
        (storeAt stream consumed (position,count) ++ stores,ending)

inductive Answer where
  | returned (full : Bool) (reported : Int)
  | threw (errno : Int)
  | running
deriving DecidableEq

-- `buffer_size` becomes what is not left of it
def Ending.answer (size : Nat) : Ending → Answer
  | .returned left => .returned true (size - left)
  | .closed left => .returned false (size - left)
  | .threw errno => .threw errno
  | .running => .running

def fullSend (memory : Int → UInt8) (size : Nat) (calls : List (List Syscall)) : Bytes × Answer :=
  let (sent,ending) := sendLoop memory calls 0 size
  (sent,ending.answer size)

def fullReceive (stream : Nat → UInt8) (size : Nat)
    (calls : List (List Recv)) : List (Int × UInt8) × Answer :=
  let (stores,ending) := receiveLoop stream calls 0 0 size
  (stores,ending.answer size)

/-- What one call of `send` or `receive` comes to. -/
inductive Move where
  | taken (size : Nat)
  | blocked
  | ended
  | failed (errno : Int)
deriving DecidableEq

def sendMove : List Syscall → Move
  | [] => .blocked
  | .accepted size :: _ => .taken (max 1 size)
  | .failed errno :: rest =>
    if errno = ewouldblock then .blocked
    else if errno = eintr then sendMove rest
    else .failed errno

def recvMove : List Recv → Move
  | [] => .blocked
  | .received size :: _ => .taken (max 1 size)
  | .closed :: _ => .ended
  | .failed errno :: rest =>
    if errno = ewouldblock then .blocked
    else if errno = eintr then recvMove rest
    else .failed errno

def fullTransfer : List Move → Int → Nat → List (Int × Nat) × Ending
  | _, _, 0 => ([],.returned 0)
  | [], _, _ => ([],.running)
  | .taken size :: rest, position, remaining =>
    let (chunks,ending) := fullTransfer rest (position + min size remaining) (remaining - size)
    ((position,min size remaining)::chunks,ending)
  | .blocked :: rest, position, remaining => fullTransfer rest (position - 1) (remaining + 1)
  | .ended :: _, _, remaining => ([],.closed remaining)
  | .failed errno :: _, _, _ => ([],.threw errno)

def storesAt (stream : Nat → UInt8) : Nat → List (Int × Nat) → List (Int × UInt8)
  | _, [] => []
  | consumed, chunk::rest => storeAt stream consumed chunk ++ storesAt stream (consumed + chunk.2) rest

def Move.answer (bytes : Bytes) : Move → Except Int (Option Bytes)
  | .taken size => .ok (some (bytes.take size))
  | .blocked | .ended => .ok none
  | .failed errno => .error errno

def Move.count (size : Nat) : Move → Except Int (Option Nat)
  | .taken count => .ok (some (min count size))
  | .blocked => .ok none
  | .ended => .ok (some 0)
  | .failed errno => .error errno

theorem offer_eq (bytes : Bytes) (ress : List Syscall) : offer bytes ress = (sendMove ress).answer bytes := by
  induction ress with
  | nil => rfl
  | cons res rest ih =>
    cases res with
    | accepted size => rfl
    | failed errno =>
      rw [offer,sendMove]
      split
      · rfl
      · split
        · exact ih
        · rfl

variable (size : Nat)

theorem recvOffer_eq (ress : List Recv) : recvOffer size ress = (recvMove ress).count size := by
  induction ress with
  | nil => rfl
  | cons res rest ih =>
    cases res with
    | received count | closed => rfl
    | failed errno =>
      rw [recvOffer,recvMove]
      split
      · rfl
      · split
        · exact ih
        · rfl

variable (ress : List Syscall)

theorem sendMove_ne_ended : sendMove ress ≠ .ended := by
  induction ress with
  | nil => simp [sendMove]
  | cons res rest ih =>
    cases res with
    | accepted size => simp [sendMove]
    | failed errno =>
      rw [sendMove]
      split
      · simp
      · split
        · exact ih
        · simp

theorem sendMove_pos {ress : List Syscall} {size : Nat} (taken : sendMove ress = .taken size) : 0 < size := by
  induction ress with
  | nil => simp [sendMove] at taken
  | cons res rest ih =>
    cases res with
    | accepted count =>
      cases taken
      omega
    | failed errno =>
      rw [sendMove] at taken
      split at taken
      · cases taken
      · split at taken
        · exact ih taken
        · cases taken

theorem recvMove_pos {ress : List Recv} {size : Nat} (taken : recvMove ress = .taken size) : 0 < size := by
  induction ress with
  | nil => simp [recvMove] at taken
  | cons res rest ih =>
    cases res with
    | received count =>
      cases taken
      omega
    | closed => simp [recvMove] at taken
    | failed errno =>
      rw [recvMove] at taken
      split at taken
      · cases taken
      · split at taken
        · exact ih taken
        · cases taken

variable (memory : Int → UInt8) (chunk : Int × Nat)

@[simp] theorem length_readAt : (readAt memory chunk).length = chunk.2 := by
  rw [readAt,length_map,length_range]

variable (stream : Nat → UInt8) {consumed : Nat}

@[simp] theorem length_storeAt {chunk : Int × Nat} : (storeAt stream consumed chunk).length = chunk.2 := by
  rw [storeAt,length_map,length_range]

variable (position : Int)

theorem take_readAt (size count : Nat) :
    (readAt memory (position,size)).take count = readAt memory (position,min count size) := by
  simp only [readAt]
  rw [← map_take,take_range]

@[simp] theorem fullTransfer_zero (moves : List Move) (position : Int) :
    fullTransfer moves position 0 = ([],.returned 0) := by
  unfold fullTransfer
  rfl

section
variable {size : Nat} (pos : size ≠ 0) (moves : List Move) (position : Int)
include pos

theorem fullTransfer_taken (taken : Nat) : fullTransfer (.taken taken :: moves) position size =
      ((position,min taken size)::(fullTransfer moves (position + min taken size) (size - taken)).1,
        (fullTransfer moves (position + min taken size) (size - taken)).2) := by
  obtain ⟨size,rfl⟩ := Nat.exists_eq_succ_of_ne_zero pos
  rfl

theorem fullTransfer_blocked :
    fullTransfer (.blocked :: moves) position size = fullTransfer moves (position - 1) (size + 1) := by
  obtain ⟨size,rfl⟩ := Nat.exists_eq_succ_of_ne_zero pos
  rfl

theorem fullTransfer_ended : fullTransfer (.ended :: moves) position size = ([],.closed size) := by
  obtain ⟨size,rfl⟩ := Nat.exists_eq_succ_of_ne_zero pos
  rfl

theorem fullTransfer_failed (errno : Int) :
    fullTransfer (.failed errno :: moves) position size = ([],.threw errno) := by
  obtain ⟨size,rfl⟩ := Nat.exists_eq_succ_of_ne_zero pos
  rfl

end

theorem sendLoop_eq (calls : List (List Syscall)) (position : Int) (remaining : Nat) :
    sendLoop memory calls position remaining =
      ((fullTransfer (calls.map sendMove) position remaining).1.flatMap (readAt memory),
        (fullTransfer (calls.map sendMove) position remaining).2) := by
  induction calls generalizing position remaining with
  | nil =>
    cases remaining with
    | zero | succ remaining => rfl
  | cons call rest ih =>
    by_cases pos : remaining = 0
    · rw [pos]
      rfl
    · have some : (readAt memory (position,remaining)).length ≠ 0 := by rwa [length_readAt]
      rw [sendLoop,send,if_neg some,offer_eq,map_cons]
      · cases move : sendMove call with
        | taken size =>
          have left : remaining - min size remaining = remaining - size := by omega
          rw [Move.answer,take_readAt,fullTransfer_taken pos,flatMap_cons]
          dsimp only
          rw [length_readAt,left,ih]
        | blocked =>
          rw [fullTransfer_blocked pos]
          exact ih (position - 1) (remaining + 1)
        | ended => exact absurd move (sendMove_ne_ended call)
        | failed errno =>
          rw [fullTransfer_failed pos]
          rfl
      · exact pos

theorem receiveLoop_eq (calls : List (List Recv)) (consumed : Nat) (position : Int) (remaining : Nat) :
    receiveLoop stream calls consumed position remaining =
      (storesAt stream consumed (fullTransfer (calls.map recvMove) position remaining).1,
        (fullTransfer (calls.map recvMove) position remaining).2) := by
  induction calls generalizing consumed position remaining with
  | nil =>
    cases remaining with
    | zero | succ remaining => rfl
  | cons call rest ih =>
    by_cases pos : remaining = 0
    · rw [pos]
      rfl
    · rw [receiveLoop,receive,if_neg pos,recvOffer_eq,map_cons]
      · cases move : recvMove call with
        | taken size =>
          have some : min size remaining ≠ 0 := by
            have := recvMove_pos move
            omega
          have left : remaining - min size remaining = remaining - size := by omega
          rw [Move.count,fullTransfer_taken pos]
          dsimp only
          rw [if_neg some,left,ih]
          rfl
        | blocked =>
          rw [fullTransfer_blocked pos]
          exact ih consumed (position - 1) (remaining + 1)
        | ended =>
          rw [fullTransfer_ended pos]
          rfl
        | failed errno =>
          rw [fullTransfer_failed pos]
          rfl
      · exact pos

theorem fullSend_eq {size : Nat} {calls : List (List Syscall)} : fullSend memory size calls =
      ((fullTransfer (calls.map sendMove) 0 size).1.flatMap (readAt memory),
        (fullTransfer (calls.map sendMove) 0 size).2.answer size) := by
  rw [fullSend,sendLoop_eq]

variable {calls : List (List Recv)}

theorem fullReceive_eq {size : Nat} : fullReceive stream size calls =
      (storesAt stream 0 (fullTransfer (calls.map recvMove) 0 size).1,
        (fullTransfer (calls.map recvMove) 0 size).2.answer size) := by
  rw [fullReceive,receiveLoop_eq]

def total (chunks : List (Int × Nat)) : Nat := chunks.foldr (fun chunk rest => chunk.2 + rest) 0

def Contiguous : Int → List (Int × Nat) → Prop
  | _, [] => True
  | start, (position,size)::rest => position = start ∧ Contiguous (start + size) rest

theorem total_cons (rest : List (Int × Nat)) : total (chunk::rest) = chunk.2 + total rest := rfl

variable {chunks : List (Int × Nat)} {start : Int}

theorem readAt_contiguous (contiguous : Contiguous start chunks) :
    chunks.flatMap (readAt memory) = readAt memory (start,total chunks) := by
  induction chunks generalizing start with
  | nil => rfl
  | cons chunk rest ih =>
    obtain ⟨position,size⟩ := chunk
    obtain ⟨rfl,later⟩ := contiguous
    rw [flatMap_cons,ih later]
    change readAt memory (position,size) ++ readAt memory (position + size,total rest) =
      readAt memory (position,size + total rest)
    simp only [readAt,range_add,map_append,map_map,comp_def,Int.natCast_add,← Int.add_assoc]

theorem length_flatMap_readAt {chunks : List (Int × Nat)} :
    (chunks.flatMap (readAt memory)).length = total chunks := by
  induction chunks with
  | nil => rfl
  | cons chunk rest ih =>
    rw [flatMap_cons,length_append,ih,length_readAt,total_cons]

theorem storesAt_contiguous (contiguous : Contiguous start chunks) : storesAt stream consumed chunks =
      (range (total chunks)).map fun (i : Nat) => (start + i,stream (consumed + i)) := by
  induction chunks generalizing start consumed with
  | nil => rfl
  | cons chunk rest ih =>
    obtain ⟨rfl,later⟩ := contiguous
    rw [storesAt,ih later,total_cons]
    simp only [storeAt,range_add,map_append,map_map,comp_def,Int.natCast_add,← Int.add_assoc,Nat.add_assoc]

theorem length_storesAt : (storesAt stream consumed chunks).length = total chunks := by
  induction chunks generalizing consumed with
  | nil => rfl
  | cons chunk rest ih =>
    rw [storesAt,length_append,ih,length_storeAt,total_cons]

def moved : List Move → Nat
  | [] => 0
  | .taken size :: rest => size + moved rest
  | _ :: rest => moved rest

def blocks (moves : List Move) : Nat := moves.count .blocked

/-- No call fails, and the counts make up the size and one more for each call that would block, or
the stream ends. -/
def Completes (size : Nat) (moves : List Move) : Prop :=
  (∀ errno, Move.failed errno ∉ moves) ∧ (size + blocks moves ≤ moved moves ∨ .ended ∈ moves)

/-- Where the first calls complete the transfer, some of the first of these do that none of which
would block. -/
def Undisturbed (size : Nat) (moves : List Move) : Prop :=
  ∀ k, Completes size (moves.take k) → ∃ j ≤ k, Completes size (moves.take j) ∧ .blocked ∉ moves.take j

def Ending.Left : Ending → Nat → Prop
  | .returned left, rest => left = rest
  | .closed left, rest => left = rest
  | _, _ => False

variable {taken : Nat} {moves : List Move}

@[simp] theorem blocks_taken : blocks (.taken taken :: moves) = blocks moves :=
  count_cons_of_ne (by simp)

@[simp] theorem blocks_blocked : blocks (.blocked :: moves) = blocks moves + 1 :=
  count_cons_self

theorem completes_nil : Completes size [] ↔ size = 0 := by
  simp [Completes,blocks,moved]

variable {moves : List Move}

theorem completes_taken {size : Nat} (less : taken < size) :
    Completes size (.taken taken :: moves) ↔ Completes (size - taken) moves := by
  have sums : size + blocks moves ≤ taken + moved moves ↔
      size - taken + blocks moves ≤ moved moves := by omega
  simp only [Completes,blocks_taken,moved,mem_cons,reduceCtorEq,false_or,sums]

theorem completes_blocked {size : Nat} : Completes size (.blocked :: moves) ↔ Completes (size + 1) moves := by
  have sums : size + (blocks moves + 1) = size + 1 + blocks moves := by omega
  simp only [Completes,blocks_blocked,moved,mem_cons,reduceCtorEq,false_or,sums]

theorem not_completes_failed {size : Nat} {errno : Int} : ¬Completes size (.failed errno :: moves) :=
  fun completes => completes.1 errno mem_cons_self

/-- At most `k` calls end the loop, and those of them that would block are what was moved too much. -/
def EndsBy (moves : List Move) (position : Int) (size k : Nat) : Prop :=
  ∃ j ≤ k, Completes size (moves.take j) ∧ ∃ left, (fullTransfer moves position size).2.Left left ∧
    total (fullTransfer moves position size).1 + left = size + blocks (moves.take j) ∧
    (.blocked ∉ moves.take j → Contiguous position (fullTransfer moves position size).1)

variable {k : Nat}

theorem endsBy_zero {position : Int} : EndsBy moves position 0 k := by
  refine ⟨0,Nat.zero_le k,(completes_nil 0).mpr rfl,0,?_⟩
  rw [fullTransfer_zero]
  exact ⟨rfl,rfl,fun _ => trivial⟩

theorem endsBy_of_completes {size : Nat}
    (completes : Completes size (moves.take k)) : EndsBy moves position size k := by
  induction moves generalizing position size k with
  | nil =>
    rw [take_nil,completes_nil] at completes
    rw [completes]
    exact endsBy_zero
  | cons move rest ih =>
    by_cases pos : size = 0
    · rw [pos]
      exact endsBy_zero
    · cases k with
      | zero => exact absurd ((completes_nil size).mp completes) pos
      | succ k =>
        cases move with
        | taken taken =>
          by_cases less : taken < size
          · obtain ⟨j,within,first,left,finished,sum,place⟩ :=
              ih (position + min taken size) ((completes_taken less).mp completes)
            refine ⟨j+1,Nat.succ_le_succ within,(completes_taken less).mpr first,left,?_⟩
            rw [fullTransfer_taken pos]
            refine ⟨finished,?_,?_⟩
            · rw [take_succ_cons,blocks_taken,total_cons]
              omega
            · intro free
              exact ⟨rfl,place (fun mem => free (mem_cons_of_mem _ mem))⟩
          · have rest : size - taken = 0 := by omega
            refine ⟨1,Nat.succ_le_succ (Nat.zero_le k),⟨by simp,Or.inl ?_⟩,0,?_⟩
            · change size + 0 ≤ taken + 0
              omega
            · rw [fullTransfer_taken pos,rest,fullTransfer_zero]
              refine ⟨rfl,?_,fun _ => ⟨rfl,trivial⟩⟩
              change min taken size + 0 + 0 = size + 0
              omega
        | blocked =>
          obtain ⟨j,within,first,left,finished,sum,-⟩ := ih (position - 1) (completes_blocked.mp completes)
          refine ⟨j+1,Nat.succ_le_succ within,completes_blocked.mpr first,left,?_⟩
          rw [fullTransfer_blocked pos]
          refine ⟨finished,?_,fun free => absurd mem_cons_self free⟩
          rw [take_succ_cons,blocks_blocked]
          omega
        | ended =>
          refine ⟨1,Nat.succ_le_succ (Nat.zero_le k),⟨by simp,Or.inr mem_cons_self⟩,size,?_⟩
          rw [fullTransfer_ended pos]
          exact ⟨rfl,Nat.zero_add size,fun _ => trivial⟩
        | failed errno => exact absurd completes not_completes_failed

theorem completes_of_left {size left : Nat} {position : Int}
    (finished : (fullTransfer moves position size).2.Left left) : ∃ k, Completes size (moves.take k) := by
  induction moves generalizing position size with
  | nil =>
    cases size with
    | zero => exact ⟨0,(completes_nil 0).mpr rfl⟩
    | succ size => exact absurd finished not_false
  | cons move rest ih =>
    by_cases pos : size = 0
    · exact ⟨0,(completes_nil size).mpr pos⟩
    · cases move with
      | taken taken =>
        rw [fullTransfer_taken pos] at finished
        obtain ⟨k,completes⟩ := ih finished
        by_cases less : taken < size
        · exact ⟨k+1,(completes_taken less).mpr completes⟩
        · refine ⟨1,by simp,Or.inl ?_⟩
          change size + 0 ≤ taken + 0
          omega
      | blocked =>
        rw [fullTransfer_blocked pos] at finished
        obtain ⟨k,completes⟩ := ih finished
        exact ⟨k+1,completes_blocked.mpr completes⟩
      | ended => exact ⟨1,by simp,Or.inr mem_cons_self⟩
      | failed errno =>
        rw [fullTransfer_failed pos] at finished
        exact absurd finished not_false

section
variable {moves : List Move} {size : Nat}

theorem undisturbed_of_sum
    (whole : ∀ left, (fullTransfer moves 0 size).2.Left left →
      total (fullTransfer moves 0 size).1 + left = size) :
    Undisturbed size moves := by
  intro k completes
  obtain ⟨j,within,first,left,finished,sum,-⟩ := endsBy_of_completes 0 completes
  refine ⟨j,within,first,?_⟩
  have exact := whole left finished
  have none : blocks (moves.take j) = 0 := by omega
  exact count_eq_zero.mp none

variable {left : Nat} {ending : Ending}

theorem left_unique {rest : Nat} (first : ending.Left left) (second : ending.Left rest) :
    left = rest := by
  cases ending with
  | returned size | closed size => exact first.symm.trans second
  | threw errno | running => exact absurd first not_false

theorem contiguous_of_undisturbed (undisturbed : Undisturbed size moves)
    (finished : (fullTransfer moves 0 size).2.Left left) :
    Contiguous 0 (fullTransfer moves 0 size).1 ∧ total (fullTransfer moves 0 size).1 + left = size := by
  obtain ⟨k,completes⟩ := completes_of_left finished
  obtain ⟨i,-,first,free⟩ := undisturbed k completes
  obtain ⟨j,within,-,rest,ended,sum,place⟩ := endsBy_of_completes 0 first
  have clear : .blocked ∉ moves.take j := by
    intro mem
    exact free (take_subset_take_left moves within mem)
  have none : blocks (moves.take j) = 0 := count_eq_zero.mpr clear
  have same := left_unique ended finished
  refine ⟨place clear,?_⟩
  omega

variable (size) in
theorem answer_of_left (finished : ending.Left left) :
    ∃ full, ending.answer size = .returned full (size - left) := by
  cases ending with
  | returned rest => exact ⟨true,by rw [← finished]; rfl⟩
  | closed rest => exact ⟨false,by rw [← finished]; rfl⟩
  | threw errno | running => exact absurd finished not_false

theorem left_of_answer {full : Bool} {reported : Int}
    (returned : ending.answer size = .returned full reported) :
    ∃ left, ending.Left left ∧ reported = size - left := by
  cases ending with
  | returned left | closed left =>
    cases returned
    exact ⟨left,rfl,rfl⟩
  | threw errno | running => cases returned

-- only an end of the stream leaves something
theorem left_eq_zero {position : Int} (lasting : Move.ended ∉ moves)
    (finished : (fullTransfer moves position size).2.Left left) : left = 0 := by
  induction moves generalizing position size with
  | nil =>
    cases size with
    | zero => exact finished.symm
    | succ size => exact absurd finished not_false
  | cons move rest ih =>
    have later : Move.ended ∉ rest := fun mem => lasting (mem_cons_of_mem _ mem)
    by_cases pos : size = 0
    · rw [pos] at finished
      exact finished.symm
    · cases move with
      | taken taken =>
        rw [fullTransfer_taken pos] at finished
        exact ih later finished
      | blocked =>
        rw [fullTransfer_blocked pos] at finished
        exact ih later finished
      | ended => exact absurd mem_cons_self lasting
      | failed errno =>
        rw [fullTransfer_failed pos] at finished
        exact absurd finished not_false

end

def SendsBuffer (memory : Int → UInt8) (size : Nat) (calls : List (List Syscall)) : Prop :=
  ∀ full reported, (fullSend memory size calls).2 = .returned full reported →
    (fullSend memory size calls).1 = readAt memory (0,size) ∧ reported = size

/-- If `full_receive` returns, it has stored what came from the start of the buffer on, and says how much. -/
def ReceivesBuffer (stream : Nat → UInt8) (size : Nat) (calls : List (List Recv)) : Prop :=
  ∀ full reported, (fullReceive stream size calls).2 = .returned full reported →
    ∃ count ≤ size, reported = count ∧
      (fullReceive stream size calls).1 = (List.range count).map fun (i : Nat) => ((i : Int),stream i)

theorem sends_iff {size : Nat} {calls : List (List Syscall)} :
    SendsBuffer memory size calls ↔ Undisturbed size (calls.map sendMove) := by
  simp only [SendsBuffer,fullSend_eq]
  constructor
  · intro sends
    apply undisturbed_of_sum
    intro left finished
    obtain ⟨full,gave⟩ := answer_of_left size finished
    obtain ⟨sent,reported⟩ := sends full _ gave
    have length := congrArg length sent
    rw [length_flatMap_readAt,length_readAt] at length
    omega
  · intro undisturbed full reported gave
    obtain ⟨left,finished,rfl⟩ := left_of_answer gave
    obtain ⟨contiguous,sum⟩ := contiguous_of_undisturbed undisturbed finished
    have none : left = 0 := by
      apply left_eq_zero _ finished
      intro mem
      obtain ⟨call,-,ended⟩ := mem_map.mp mem
      exact sendMove_ne_ended call ended
    refine ⟨?_,by omega⟩
    have whole : total (fullTransfer (calls.map sendMove) 0 size).1 = size := by omega
    rw [readAt_contiguous memory contiguous,whole]

theorem receives_iff {size : Nat} : ReceivesBuffer stream size calls ↔
    Undisturbed size (calls.map recvMove) := by
  simp only [ReceivesBuffer,fullReceive_eq]
  constructor
  · intro receives
    apply undisturbed_of_sum
    intro left finished
    obtain ⟨full,gave⟩ := answer_of_left size finished
    obtain ⟨count,-,reported,stored⟩ := receives full _ gave
    have length := congrArg length stored
    rw [length_storesAt,length_map,length_range] at length
    omega
  · intro undisturbed full reported gave
    obtain ⟨left,finished,rfl⟩ := left_of_answer gave
    obtain ⟨contiguous,sum⟩ := contiguous_of_undisturbed undisturbed finished
    refine ⟨total (fullTransfer (calls.map recvMove) 0 size).1,by omega,by omega,?_⟩
    rw [storesAt_contiguous stream contiguous]
    simp only [Int.zero_add,Nat.zero_add]

/-- Both loops move the buffer exactly when no call would block before they are finished. -/
theorem full_transfers_iff (memory : Int → UInt8) (stream : Nat → UInt8) (size : Nat)
    (sends : List (List Syscall))
    (receives : List (List Recv)) : (SendsBuffer memory size sends ↔ Undisturbed size (sends.map sendMove)) ∧
      (ReceivesBuffer stream size receives ↔ Undisturbed size (receives.map recvMove)) :=
  ⟨sends_iff memory,receives_iff stream⟩

def letters (position : Int) : UInt8 := if position < 0 then 0 else UInt8.ofNat (97 + position.toNat)

-- a send that would block makes the next one start before the buffer, and a receive store there
theorem blocked_shifts_buffer :
    fullSend letters 3 [[.failed ewouldblock],[.accepted 4]] = ([0,97,98,99],.returned true 3) ∧
      ¬SendsBuffer letters 3 [[.failed ewouldblock],[.accepted 4]] ∧
    fullReceive (fun i => UInt8.ofNat (97 + i)) 3 [[.failed ewouldblock],[.received 4]] =
        ([(-1,97),(0,98),(1,99),(2,100)],.returned true 3) ∧
      ¬ReceivesBuffer (fun i => UInt8.ofNat (97 + i)) 3 [[.failed ewouldblock],[.received 4]] := by
  refine ⟨by decide,?_,by decide,?_⟩
  · intro sends
    have sent := (sends true 3 (by decide)).1
    exact absurd sent (by decide)
  · intro receives
    obtain ⟨count,within,-,stored⟩ := receives true 3 (by decide)
    have length := congrArg length stored
    rw [length_map,length_range] at length
    have four : count = 4 := by rw [← length]; decide
    omega

end Mooon.Net.DataChannel

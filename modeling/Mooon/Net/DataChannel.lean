import Mathlib.Data.List.Basic

/-! The sending half of `CDataChannel`. The answers of the system calls come from the environment: a call that
succeeds takes at least one of the bytes it is offered, and at most all of them. -/
namespace Mooon.Net.DataChannel
open List

abbrev Bytes := List UInt8

def eintr : Int := 4
def ewouldblock : Int := 11
def einval : Int := 22

inductive Syscall where
  | accepted (size : Nat)
  | failed (errno : Int)
deriving DecidableEq

/-- The loop of both functions over the bytes that are offered: the bytes that were taken, or `none`
when the call would block. -/
def offer (bytes : Bytes) : List Syscall → Except Int (Option Bytes)
  | [] => .ok none
  | .accepted size :: _ => .ok (some (bytes.take (max 1 size)))
  | .failed errno :: rest =>
    if errno = ewouldblock then .ok none
    else if errno = eintr then offer bytes rest
    else .error errno

def send (buffer : Bytes) (results : List Syscall) : Except Int (Option Bytes) :=
  if buffer.length = 0 then .error einval else offer buffer results

/-- Behind the end of the file `sendfile` finds nothing, and returns 0. -/
def sendFile (file : Bytes) (offset count : Nat) (results : List Syscall) : Except Int (Option Bytes) :=
  offer ((file.drop offset).take count) results

structure Write where
  interruptions : Nat
  accepted : Option Nat
deriving DecidableEq

def Write.results (write : Write) : List Syscall :=
  List.replicate write.interruptions (.failed eintr) ++
    [match write.accepted with | some size => .accepted size | none => .failed ewouldblock]

def Write.taken (write : Write) (bytes : Bytes) : Option Bytes :=
  write.accepted.map fun size => bytes.take (max 1 size)

theorem offer_write (bytes : Bytes) (write : Write) :
    offer bytes write.results = .ok (write.taken bytes) := by
  obtain ⟨interruptions,accepted⟩ := write
  induction interruptions with
  | zero => cases accepted <;> rfl
  | succ interruptions ih => exact ih

theorem taken_prefix {write : Write} {bytes taken : Bytes} (some : write.taken bytes = some taken) :
    taken ++ bytes.drop taken.length = bytes ∧ (bytes ≠ [] → taken ≠ []) := by
  obtain ⟨size,_,rfl⟩ := Option.map_eq_some_iff.mp some
  constructor
  · rw [length_take]
    rcases Nat.le_total (max 1 size) bytes.length with within | beyond
    · rw [Nat.min_eq_left within,take_append_drop]
    · rw [Nat.min_eq_right beyond,take_of_length_le beyond,drop_length,append_nil]
  · intro nonempty none
    have length := congrArg length none
    have pos := length_pos_iff.mpr nonempty
    rw [length_take,length_nil] at length
    omega

end Mooon.Net.DataChannel

import Mooon.Run

/-! The sender tables of the dispatcher, `CManagedSenderTable` with a key below 65535 and
`CUnmanagedSenderTable` with an address as key, and the reference counts of the senders. Each
operation runs under the lock of its key. A sender is the index of its object; an object keeps,
next to the members, how often it was deleted and which references to it are outstanding. -/
namespace Mooon.Dispatcher
variable {Key : Type}

structure SenderObject (Key : Type) where
  key : Key
  refcount : Int
  inTable : Bool
  toShutdown : Bool
  deletions : Nat
  held : Nat
  threadHolds : Bool

namespace SenderObject

section
variable (sender : SenderObject Key)

def outstanding : Nat := sender.held + sender.threadHolds.toNat

def new (key : Key) : SenderObject Key := ⟨key,0,false,false,0,0,false⟩

def incRefcount : SenderObject Key := {sender with refcount := sender.refcount + 1}

def decRefcount : SenderObject Key × Bool :=
  if sender.refcount - 1 = 0 then ({sender with refcount := 0, deletions := sender.deletions + 1},true)
  else ({sender with refcount := sender.refcount - 1},false)

def delete : SenderObject Key := {sender with deletions := sender.deletions + 1}

def take : SenderObject Key := {sender with held := sender.held + 1}

def give : SenderObject Key := {sender with held := sender.held - 1}

def threadGives : SenderObject Key := {sender with threadHolds := false}

end

end SenderObject

structure SenderTable (Key : Type) where
  senders : List (SenderObject Key)
  slots : Key → Option Nat

inductive TableKind where
  | managed
  | unmanaged

namespace SenderTable
variable [DecidableEq Key]

def empty : SenderTable Key := ⟨[],fun _ => none⟩

section
variable (table : SenderTable Key) (index : Nat) (sender : SenderObject Key) (key : Key)

def set : SenderTable Key :=
  {table with senders := table.senders.set index sender}

def clearSlot : SenderTable Key :=
  {table with slots := Function.update table.slots key none}

def addSender : SenderObject Key := {sender.incRefcount with threadHolds := true}

def insert : SenderTable Key × Option Nat :=
  let sender := {(SenderObject.new key).incRefcount.take with inTable := true}
  ({senders := table.senders ++ [addSender sender],
    slots := Function.update table.slots key (some table.senders.length)},
    some table.senders.length)

def openSender (kind : TableKind) (table : SenderTable Key) (key : Key) (valid : Bool) :
    SenderTable Key × Option Nat :=
  if valid = false then (table,none)
  else if table.slots key = none then table.insert key
  else match kind with
    | .managed => (table,none)
    -- the sender is made before the map refuses it
    | .unmanaged => ({table with senders := table.senders ++ [(SenderObject.new key).delete]},none)

def getSender : SenderTable Key × Option Nat :=
  match table.slots key with
  | none => (table,none)
  | some index => match table.senders[index]? with
    | none => (table,none)
    | some sender => (table.set index sender.incRefcount.take,some index)

def closeSender : SenderTable Key :=
  if sender.inTable then
    (table.clearSlot sender.key).set index {sender with toShutdown := true, inTable := false}.decRefcount.1
  else table.set index sender.decRefcount.1

def releaseSender : SenderTable Key :=
  if sender.inTable then
    let (later,deleted) := sender.decRefcount
    if deleted then (table.clearSlot sender.key).set index later else table.set index later
  else table.set index sender

def removeSender : SenderTable Key :=
  if sender.inTable then (table.clearSlot sender.key).set index {sender with inTable := false}.decRefcount.1
  else table.set index sender.decRefcount.1

inductive Action (Key : Type) where
  | openSender (key : Key) (valid : Bool)
  | getSender (key : Key)
  | closeSender (index : Nat)
  | releaseSender (index : Nat)
  | removeSender (index : Nat)
  | threadCloseSender (index : Nat)

def step (kind : TableKind) (table : SenderTable Key) : Action Key → SenderTable Key × Option Nat
  | .openSender key valid => table.openSender kind key valid
  | .getSender key => table.getSender key
  | .closeSender index => (table.senders[index]?.elim table
    (fun sender => table.closeSender index sender.give),none)
  | .releaseSender index =>
    (table.senders[index]?.elim table (fun sender => table.releaseSender index sender.give),none)
  | .removeSender index => (table.senders[index]?.elim table
    (fun sender => table.removeSender index sender.give),none)
  | .threadCloseSender index =>
    (table.senders[index]?.elim table (fun sender => table.closeSender index sender.threadGives),none)

def GivesOutstanding : Action Key → Prop
  | .openSender _ _ | .getSender _ => True
  | .closeSender index | .releaseSender index | .removeSender index =>
    ∃ sender, table.senders[index]? = some sender ∧ 0 < sender.held
  | .threadCloseSender index => ∃ sender, table.senders[index]? = some sender ∧ sender.threadHolds = true

def ReleasesInTable : Action Key → Prop
  | .releaseSender index => ∀ sender, table.senders[index]? = some sender → sender.inTable = true
  | _ => True

end

/-- A sender is deleted, once, when no reference to it is outstanding, and not before. -/
structure Counted (table : SenderTable Key) : Prop where
  deleted : ∀ (index : Nat) (sender : SenderObject Key), table.senders[index]? = some sender →
    sender.deletions = if sender.outstanding = 0 then 1 else 0
  live : ∀ key index, table.slots key = some index →
    ∃ sender, table.senders[index]? = some sender ∧ sender.deletions = 0

end SenderTable

end Mooon.Dispatcher

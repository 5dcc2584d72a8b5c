import Mooon.Dispatcher.SenderTable

/-! The reference counts of the senders. The count of each sender is the number of its
outstanding references. A sender in the table has the reference of the send thread, so the
users alone never delete it there. -/
namespace Mooon.Dispatcher
open List Option Function
variable {Key : Type}

namespace SenderObject

structure Fine (sender : SenderObject Key) : Prop where
  count : sender.refcount = sender.outstanding
  deleted : sender.deletions = if sender.outstanding = 0 then 1 else 0
  owned : sender.inTable = true → sender.threadHolds = true

theorem Fine.decRefcount {before after : SenderObject Key} (fine : before.Fine)
    (less : after.outstanding + 1 = before.outstanding) (count : after.refcount = before.refcount)
    (deletions : after.deletions = before.deletions)
    (owned : after.inTable = true → after.threadHolds = true) : after.decRefcount.1.Fine := by
  have counted := fine.count
  have deleted := fine.deleted
  rw [if_neg (by omega)] at deleted
  unfold SenderObject.decRefcount
  split_ifs with zero
  · have none : after.outstanding = 0 := by omega
    refine ⟨?_,?_,owned⟩
    · show (0 : Int) = after.outstanding
      rw [none]
      rfl
    · show after.deletions + 1 = if after.outstanding = 0 then 1 else 0
      rw [if_pos none,deletions,deleted]
  · refine ⟨?_,?_,owned⟩
    · show after.refcount - 1 = after.outstanding
      omega
    · show after.deletions = if after.outstanding = 0 then 1 else 0
      rw [if_neg (by omega),deletions,deleted]

variable {sender : SenderObject Key}

theorem Fine.take (fine : sender.Fine) (live : sender.outstanding ≠ 0) : sender.incRefcount.take.Fine := by
  have counted := fine.count
  have more : sender.incRefcount.take.outstanding = sender.outstanding + 1 := by
    simp only [outstanding,SenderObject.take,incRefcount]
    omega
  refine ⟨?_,?_,fine.owned⟩
  · rw [more]
    show sender.refcount + 1 = ((sender.outstanding + 1 : Nat) : Int)
    omega
  · have deleted := fine.deleted
    rw [if_neg live] at deleted
    rw [more]
    exact deleted

theorem Fine.live (fine : sender.Fine) (there : sender.inTable = true) : sender.outstanding ≠ 0 := by
  simp [outstanding,fine.owned there]

theorem outstanding_give (held : 0 < sender.held) : sender.give.outstanding + 1 = sender.outstanding := by
  simp only [outstanding,give]
  omega

theorem outstanding_threadGives (holds : sender.threadHolds = true) :
    sender.threadGives.outstanding + 1 = sender.outstanding := by
  simp [outstanding,threadGives,holds]

@[simp] theorem decRefcount_inTable (sender : SenderObject Key) :
    sender.decRefcount.1.inTable = sender.inTable := by
  unfold decRefcount
  split <;> rfl

@[simp] theorem decRefcount_key (sender : SenderObject Key) : sender.decRefcount.1.key = sender.key := by
  unfold decRefcount
  split <;> rfl

end SenderObject

namespace SenderTable

structure Valid (table : SenderTable Key) : Prop where
  fine : ∀ (index : Nat) (sender : SenderObject Key), table.senders[index]? = some sender → sender.Fine
  placed : ∀ (index : Nat) (sender : SenderObject Key), table.senders[index]? = some sender →
    sender.inTable = true →
    table.slots sender.key = some index
  slot : ∀ key index, table.slots key = some index →
    ∃ sender, table.senders[index]? = some sender ∧ sender.key = key ∧ sender.inTable = true

theorem Valid.empty : (empty : SenderTable Key).Valid := by
  constructor <;> simp [SenderTable.empty]

variable {table : SenderTable Key}

theorem Valid.counted (valid : table.Valid) : table.Counted := by
  refine ⟨fun index sender found => (valid.fine index sender found).deleted,?_⟩
  intro key index slot
  obtain ⟨sender,found,-,there⟩ := valid.slot key index slot
  have fine := valid.fine index sender found
  refine ⟨sender,found,?_⟩
  rw [fine.deleted,if_neg (fine.live there)]

variable {index : Nat} {before : SenderObject Key}

theorem set_self (found : table.senders[index]? = some before) (after : SenderObject Key) :
    (table.set index after).senders[index]? = some after := by
  have inside := (List.getElem?_eq_some_iff.mp found).1
  simp [set,inside]

theorem set_other (table : SenderTable Key) {other : Nat} (nodup : other ≠ index) (after : SenderObject Key) :
    (table.set index after).senders[other]? = table.senders[other]? := by
  simp [set,Ne.symm nodup]

variable {after : SenderObject Key}

theorem Valid.keep (valid : table.Valid)
    (found : table.senders[index]? = some before) (fine : after.Fine) (key : after.key = before.key)
    (place : after.inTable = before.inTable) : (table.set index after).Valid := by
  refine ⟨?_,?_,?_⟩
  · intro other sender mem
    by_cases same : other = index
    · subst same
      rw [set_self found,some.injEq] at mem
      exact mem ▸ fine
    · rw [set_other table same] at mem
      exact valid.fine other sender mem
  · intro other sender mem there
    by_cases same : other = index
    · subst same
      rw [set_self found,some.injEq] at mem
      subst mem
      rw [key]
      exact valid.placed other before found (place ▸ there)
    · rw [set_other table same] at mem
      exact valid.placed other sender mem there
  · intro slot other there
    obtain ⟨sender,mem,named,inside⟩ := valid.slot slot other there
    by_cases same : other = index
    · subst same
      rw [found,some.injEq] at mem
      subst mem
      exact ⟨after,set_self found after,key.trans named,place.trans inside⟩
    · exact ⟨sender,(set_other table same after).trans mem,named,inside⟩

variable {sender : SenderObject Key}

theorem getElem?_snoc {senders : List (SenderObject Key)} {last : SenderObject Key} :
    (senders ++ [last])[index]? = some sender ↔
      senders[index]? = some sender ∨ index = senders.length ∧ last = sender := by
  rcases Nat.lt_trichotomy index senders.length with inside | rfl | beyond
  · simp [getElem?_append_left inside,Nat.ne_of_lt inside]
  · simp
  · have long : (senders ++ [last])[index]? = none :=
      getElem?_eq_none (by rw [length_append]; exact beyond)
    have short : senders[index]? = none := getElem?_eq_none (Nat.le_of_lt beyond)
    simp [long,short,Nat.ne_of_gt beyond]

theorem Valid.append (valid : table.Valid) (fine : sender.Fine)
    (outside : sender.inTable = false) : {table with senders := table.senders ++ [sender]}.Valid := by
  refine ⟨?_,?_,?_⟩
  · intro index other mem
    rcases getElem?_snoc.mp mem with mem | ⟨-,rfl⟩
    · exact valid.fine index other mem
    · exact fine
  · intro index other mem there
    rcases getElem?_snoc.mp mem with mem | ⟨-,rfl⟩
    · exact valid.placed index other mem there
    · rw [outside] at there
      cases there
  · intro key index slot
    obtain ⟨other,mem,rest⟩ := valid.slot key index slot
    exact ⟨other,getElem?_snoc.mpr (Or.inl mem),rest⟩

theorem Valid.getSender (valid : table.Valid) (key : Key) : (table.getSender key).1.Valid := by
  unfold SenderTable.getSender
  cases slot : table.slots key with
  | none => exact valid
  | some index =>
    obtain ⟨sender,found,-,there⟩ := valid.slot key index slot
    have fine := valid.fine index sender found
    simp only [found]
    exact valid.keep found (fine.take (fine.live there)) rfl rfl

variable [DecidableEq Key]

section
variable (valid : table.Valid)
include valid

section
variable (found : table.senders[index]? = some before)
include found

theorem Valid.takeOut (there : before.inTable = true) (fine : after.Fine)
    (outside : after.inTable = false) : ((table.clearSlot before.key).set index after).Valid := by
  have slot := valid.placed index before found there
  have kept {key : Key} {other : Nat} (taken : table.slots key = some other) (nodup : other ≠ index) :
      (table.clearSlot before.key).slots key = some other := by
    have differ : key ≠ before.key := by
      rintro rfl
      rw [slot,some.injEq] at taken
      exact nodup taken.symm
    exact (update_of_ne differ _ _).trans taken
  have moved : (table.clearSlot before.key).senders[index]? = some before := found
  refine ⟨?_,?_,?_⟩
  · intro other sender mem
    by_cases same : other = index
    · subst same
      rw [set_self moved,some.injEq] at mem
      exact mem ▸ fine
    · rw [set_other _ same] at mem
      exact valid.fine other sender mem
  · intro other sender mem inside
    by_cases same : other = index
    · subst same
      rw [set_self moved,some.injEq] at mem
      subst mem
      rw [outside] at inside
      cases inside
    · rw [set_other _ same] at mem
      exact kept (valid.placed other sender mem inside) same
  · intro key other taken
    have differ : key ≠ before.key := by
      rintro rfl
      simp [clearSlot,set] at taken
    have kept : table.slots key = some other := by
      simpa [clearSlot,set,differ] using taken
    obtain ⟨sender,mem,named,inside⟩ := valid.slot key other kept
    have same : other ≠ index := by
      rintro rfl
      rw [found,some.injEq] at mem
      exact differ (named ▸ mem ▸ rfl)
    exact ⟨sender,(set_other _ same after).trans mem,named,inside⟩

theorem Valid.closeSender
    (less : after.outstanding + 1 = before.outstanding) (count : after.refcount = before.refcount)
    (deletions : after.deletions = before.deletions) (key : after.key = before.key)
    (place : after.inTable = before.inTable) :
    (table.closeSender index after).Valid := by
  have fine := valid.fine index before found
  unfold SenderTable.closeSender
  split_ifs with there
  · rw [key]
    refine valid.takeOut found (place ▸ there)
      (fine.decRefcount less count deletions (absurd · Bool.false_ne_true)) ?_
    rw [SenderObject.decRefcount_inTable]
  · refine valid.keep found (fine.decRefcount less count deletions (absurd · there)) ?_ ?_
    · rw [SenderObject.decRefcount_key,key]
    · rw [SenderObject.decRefcount_inTable,place]

theorem Valid.removeSender (held : 0 < before.held) :
    (table.removeSender index before.give).Valid := by
  have fine := valid.fine index before found
  have less := SenderObject.outstanding_give held
  unfold SenderTable.removeSender
  split_ifs with there
  · have key : before.give.key = before.key := rfl
    rw [key]
    refine valid.takeOut found there (fine.decRefcount less rfl rfl (absurd · Bool.false_ne_true)) ?_
    rw [SenderObject.decRefcount_inTable]
  · refine valid.keep found (fine.decRefcount less rfl rfl (absurd · there)) ?_ ?_
    · rw [SenderObject.decRefcount_key]
      rfl
    · rw [SenderObject.decRefcount_inTable]
      rfl

theorem Valid.releaseSender (held : 0 < before.held)
    (there : before.inTable = true) :
    (table.releaseSender index before.give).Valid := by
  have fine := valid.fine index before found
  have less := SenderObject.outstanding_give held
  have later := fine.decRefcount less rfl rfl fine.owned
  -- the reference of the send thread is left
  have kept : before.give.decRefcount.2 = false := by
    have count := fine.count
    have more : before.give.outstanding ≠
        0 := by simp [SenderObject.outstanding,SenderObject.give,fine.owned there]
    unfold SenderObject.decRefcount
    rw [if_neg]
    show before.refcount - 1 ≠ 0
    omega
  have inside : before.give.inTable = true := there
  unfold SenderTable.releaseSender
  rw [if_pos inside]
  generalize answer : before.give.decRefcount = res at later kept ⊢
  obtain ⟨after,deleted⟩ := res
  subst kept
  have after_eq : before.give.decRefcount.1 = after := congrArg Prod.fst answer
  refine valid.keep found later ?_ ?_
  · show after.key = before.key
    rw [← after_eq,SenderObject.decRefcount_key]
    rfl
  · show after.inTable = before.inTable
    rw [← after_eq,SenderObject.decRefcount_inTable]
    rfl

end

theorem Valid.insert {key : Key} (free : table.slots key = none) : (table.insert key).1.Valid := by
  refine ⟨?_,?_,?_⟩
  · intro index other mem
    rcases getElem?_snoc.mp mem with mem | ⟨-,rfl⟩
    · exact valid.fine index other mem
    · exact ⟨rfl,rfl,fun _ => rfl⟩
  · intro index other mem there
    rcases getElem?_snoc.mp mem with mem | ⟨rfl,rfl⟩
    · have slot := valid.placed index other mem there
      have differ : other.key ≠ key := by
        rintro rfl
        rw [free] at slot
        cases slot
      exact (update_of_ne differ _ _).trans slot
    · exact update_self _ _ _
  · intro other index slot
    replace slot : Function.update table.slots key (some table.senders.length) other = some index := slot
    by_cases same : other = key
    · subst same
      rw [update_self,some.injEq] at slot
      exact ⟨_,getElem?_snoc.mpr (Or.inr ⟨slot.symm,rfl⟩),rfl,rfl⟩
    · rw [update_of_ne same] at slot
      obtain ⟨sender,mem,rest⟩ := valid.slot other index slot
      exact ⟨sender,getElem?_snoc.mpr (Or.inl mem),rest⟩

variable (kind : TableKind)

theorem Valid.openSender (key : Key) (checked : Bool) :
    (table.openSender kind key checked).1.Valid := by
  unfold SenderTable.openSender
  split
  · exact valid
  · split_ifs with free
    · exact valid.insert free
    · cases kind with
      | managed => exact valid
      | unmanaged => exact valid.append ⟨rfl,rfl,nofun⟩ rfl

theorem Valid.step {act : Action Key}
    (gives : table.GivesOutstanding act) (released : table.ReleasesInTable act) :
    (table.step kind act).1.Valid := by
  cases act with
  | openSender key checked => exact valid.openSender kind key checked
  | getSender key => exact valid.getSender key
  | closeSender index =>
    obtain ⟨sender,found,held⟩ := gives
    simp only [SenderTable.step,found]
    exact valid.closeSender found (SenderObject.outstanding_give held) rfl rfl rfl rfl
  | releaseSender index =>
    obtain ⟨sender,found,held⟩ := gives
    simp only [SenderTable.step,found]
    exact valid.releaseSender found held (released sender found)
  | removeSender index =>
    obtain ⟨sender,found,held⟩ := gives
    simp only [SenderTable.step,found]
    exact valid.removeSender found held
  | threadCloseSender index =>
    obtain ⟨sender,found,holds⟩ := gives
    simp only [SenderTable.step,found]
    exact valid.closeSender found (SenderObject.outstanding_threadGives holds) rfl rfl rfl rfl

end

theorem counted_of_releases (kind : TableKind) (actions : List (Action Key))
    (met : Run.Meets (fun table action => table.GivesOutstanding action ∧
      table.ReleasesInTable action) (step kind)
      empty actions) : (Run.final (step kind) empty actions).Counted :=
  (Run.invariant Valid (fun _ _ valid met => valid.step kind met.1 met.2) _ _ .empty met).counted

theorem counted_of_releases_one :
    Run.Meets (fun table action => table.GivesOutstanding action ∧ table.ReleasesInTable action)
      (step .managed)
        (empty : SenderTable (Fin 65535))
        [.openSender 0 true,.getSender 0,.releaseSender 0,.threadCloseSender 0,
          .removeSender 0] ∧
      (Run.final (step .managed) (empty : SenderTable (Fin 65535)) [.openSender 0 true,.getSender 0,
        .releaseSender 0,
        .threadCloseSender 0,.removeSender 0]).Counted := by
  have met : Run.Meets (fun table action => table.GivesOutstanding action ∧ table.ReleasesInTable action)
      (step .managed) (empty : SenderTable (Fin 65535)) [.openSender 0 true,.getSender 0,.releaseSender 0,
        .threadCloseSender 0,.removeSender 0] := by
    refine ⟨⟨trivial,trivial⟩,⟨trivial,trivial⟩,⟨⟨_,rfl,by decide⟩,?_⟩,⟨⟨_,rfl,rfl⟩,trivial⟩,
      ⟨⟨_,rfl,by decide⟩,trivial⟩,trivial⟩
    rintro sender ⟨rfl⟩
    rfl
  exact ⟨met,counted_of_releases .managed _ met⟩

theorem released_outside_leaks : Run.Meets GivesOutstanding (step .managed) (empty : SenderTable (Fin 65535))
        [.openSender 0 true,.threadCloseSender 0,.releaseSender 0] ∧
      ¬(Run.final (step .managed) (empty : SenderTable (Fin 65535))
        [.openSender 0 true,.threadCloseSender 0,.releaseSender 0]).Counted := by
  refine ⟨⟨trivial,⟨_,rfl,rfl⟩,⟨_,rfl,by decide⟩,trivial⟩,fun counted => ?_⟩
  have deleted := counted.deleted 0 _ rfl
  revert deleted
  decide

end SenderTable

end Mooon.Dispatcher

import Mooon.Run
import Mooon.UniqId.Master

/-! The renewals of one master and the database session they are written through, with autocommit
off. A statement that fails leaves the open transaction as it is, or takes it away as a lost
connection does. The queries that only read see the open transaction. -/
namespace Mooon.UniqId.Renewal
open List Run Int Prod
open Master (Online Tables LabelInfo renewRow renewRow_label)

inductive Result where
  | executed
  | failed
  | lost
deriving DecidableEq

structure Session where
  committed : Tables
  working : Tables

/-- A change that is refused, as an insert of a key that is there, throws. -/
inductive Statement where
  | change (apply : Tables → Option Tables)
  | commit

namespace Session

def execute (result : Result) (statement : Statement) (session : Session) : Session × Bool :=
  match result,statement with
  | .executed,.change apply =>
    match apply session.working with
    | some working => ({session with working := working},true)
    | none => (session,false)
  | .executed,.commit => (⟨session.working,session.working⟩,true)
  | .failed,_ => (session,false)
  | .lost,_ => (⟨session.committed,session.committed⟩,false)

def run : List (Result × Statement) → Session → Session × Bool
  | [], session => (session,true)
  | (result,statement)::rest, session =>
    match session.execute result statement with
    | (session,true) => run rest session
    | (session,false) => (session,false)

-- an exception of the rollback is only logged
def rollback (result : Result) (session : Session) : Session :=
  match result with
  | .failed => session
  | _ => ⟨session.committed,session.committed⟩

end Session

def query : Statement := .change some

def insertLog : Statement := .change some

def deletePool (label : UInt8) : Statement :=
  .change fun tables => if tables.pool.has label then
    some {tables with pool := tables.pool.delete label} else none

def insertPool (label : UInt8) : Statement :=
  .change fun tables => (tables.pool.insert label).map fun pool => {tables with pool := pool}

def insertOnline (row : Online) : Statement :=
  .change fun tables => (tables.online.insert row).map fun online => {tables with online := online}

def deleteOnline (label : UInt8) : Statement :=
  .change fun tables => some {tables with online := tables.online.delete label}

section
variable (zone : Int → Int)

def updateOnline (info : LabelInfo) : Statement :=
  .change fun tables => some {tables with
    online := tables.online.update (renewRow zone info) (renewRow_label zone info)}

def renewRows (results : Nat → Result) : List LabelInfo → Nat → Session → Session × Bool
  | [], _, session => (session,false)
  | info::rest, statement, session =>
    let (session,updated) := session.execute (results statement) (updateOnline zone info)
    let (session,later) := renewRows results rest (statement+1) session
    (session,updated || later)

def renew (results : Nat → Result) (infos : Table LabelInfo.label)
    (session : Session) : Table LabelInfo.label × Session :=
  match renewRows zone results infos.rows 0 session with
  | (session,false) => (infos,session)
  | (session,true) =>
    match session.execute (results infos.rows.length) .commit with
    | (session,true) => (.empty,session)
    | (session,false) => (infos,session)

def recycleStatements (label : UInt8) (results : Nat → Result) : List (Result × Statement) :=
  [(results 1,insertPool label),(results 2,insertLog),(results 3,.commit)]

-- `need_rollback` keeps its value from one label to the next
def recycleRows (results : UInt8 → Nat → Result) : List UInt8 → Bool → Session → Session
  | [], _, session => session
  | label::rest, needRollback, session =>
    match session.execute (results label 0) (deleteOnline label) with
    | (next,false) => if needRollback then next.rollback (results label 4) else next
    | (next,true) =>
      if !session.working.online.has label then recycleRows results rest false next
      else
        match next.run (recycleStatements label (results label)) with
        | (next,true) => recycleRows results rest true next
        | (next,false) => next.rollback (results label 4)

def recycle (expire : UInt32) (now : TimeT) (selected : Result) (results : UInt8 → Nat → Result)
    (session : Session) : Session :=
  match session.execute selected query with
  | (session,false) => session
  | (session,true) => recycleRows results
    (Master.expiredLabels zone expire now session.working.online) false session

def rentStatements (row : Online) (results : Nat → Result) : List (Result × Statement) :=
  [(results 3,insertOnline row),(results 4,insertLog),(results 5,.commit)]

def allocMove (label : UInt8) (ip : UInt32) (time : Int) (results : Nat → Result) (session : Session) :
    Session × Option UInt8 :=
  match session.execute (results 2) (deletePool label) with
  | (session,false) => (session,none)
  | (session,true) =>
    match session.run (rentStatements ⟨label,ip,time⟩ results) with
    | (session,true) => (session,some label)
    | (session,false) => (session.rollback (results 6),none)

def allocLabel (choice : UInt8) (ip : UInt32) (now : TimeT) (results : Nat → Result) (session : Session) :
    Session × Except UInt32 UInt8 :=
  match session.execute (results 1) query with
  | (session,false) => (session,.error errorDatabase)
  | (session,true) =>
    match Master.selectLabel choice session.working.pool with
    | none => (session,.error errorNoLabel)
    | some label =>
      match allocMove label ip (zone now.toInt) results session with
      | (session,some label) => (session,.ok label)
      | (session,none) => (session,.error errorDatabase)

/-- An exception of the query of `hold_valid_label` is caught nowhere and ends the process. -/
def rent (expire : UInt32) (now : TimeT) (ip : UInt32) (label : UInt32) (choice : UInt8)
    (results : Nat → Result) (session : Session) : Session × Except UInt32 UInt8 :=
  if labelMax < label.toNat then (session,.error errorInvalidLabel)
  else if 0 < label then
    if Master.holdValidLabel zone expire now ip label.toUInt8 session.working.online then
      (session,.ok label.toUInt8)
    else (session,.error errorLabelNotHold)
  else
    match session.execute (results 0) query with
    | (session,false) => (session,.error errorDatabase)
    | (session,true) =>
      match Master.getLabel zone expire now ip session.working.online with
      | none => (session,.error errorDatabase)
      | some label => if label = 0 then allocLabel zone choice ip now results session else (session,.ok label)

structure Ack where
  label : UInt8
  ip : UInt32
  time : TimeT
deriving DecidableEq

/-- `acked` is not in the source: the leases that were answered so far. -/
structure State where
  now : TimeT
  infos : Table LabelInfo.label
  session : Session
  acked : List Ack

inductive Action where
  | receive (now : TimeT) (ip : UInt32) (message : MessageHead) (choice : UInt8) (results : Nat → Result)
  | timeout (now : TimeT) (renewed : Nat → Result) (selected : Result) (recycled : UInt8 → Nat → Result)

def Action.now : Action → TimeT
  | .receive now .. => now
  | .timeout now .. => now

def receive (expire : UInt32) (now : TimeT) (ip : UInt32) (message : MessageHead) (choice : UInt8)
    (results : Nat → Result) (master : State) : State × Option MessageHead :=
  let master := {master with now := now}
  if message.calcMagic ≠ message.magic then (master,none)
  else if message.type = requestLabel then
    match rent zone expire now ip message.value1 choice results master.session with
    | (session,.ok label) =>
      (⟨now,Master.remember ⟨label,ip,now⟩ master.infos,session,master.acked ++ [⟨label,ip,now⟩]⟩,
        some (response responseLabel message label.toUInt32 0 0))
    | (session,.error errcode) =>
      ({master with session := session},some (prepareResponseError message errcode))
  else (master,some (prepareResponseError message errorInvalidType))

def step (expire : UInt32) (master : State) : Action → State × Option MessageHead
  | .receive now ip message choice results => receive zone expire now ip message choice results master
  | .timeout now renewed selected recycled =>
    let (infos,session) := renew zone renewed master.infos master.session
    ({master with
      now := now, infos := infos, session := recycle zone expire now selected recycled session},none)

def start (now : TimeT) (tables : Tables) : State := ⟨now,.empty,⟨tables,tables⟩,[]⟩

/-- Every lease that was answered, as long as its row belongs to the same address, is in the row or
pending, by the local times that the table compares. -/
def Covered (acked : List Ack) (infos : Table LabelInfo.label) (tables : Tables) : Prop :=
  ∀ ack ∈ acked, ∀ row ∈ tables.online, row.label = ack.label → row.ip = ack.ip →
    zone ack.time.toInt ≤ row.time ∨
      ∃ info ∈ infos, info.label = ack.label ∧ info.ip = ack.ip ∧
        zone ack.time.toInt ≤ zone info.leaseTime.toInt
deriving Decidable

def State.Kept (master : State) : Prop := Covered zone master.acked master.infos master.session.committed

instance (master : State) : Decidable (master.Kept zone) := inferInstanceAs (Decidable (Covered _ _ _ _))

/-- The local clock does not go back, no pending renewal of a label which the requester holds is
under another address, and renewals that are committed were all executed. -/
def Careful (master : State) (action : Action) : Prop :=
  zone master.now.toInt ≤ zone action.now.toInt ∧
    match action with
    | .receive _ ip _ _ _ => ∀ info ∈ master.infos.rows, ∀ row ∈ master.session.working.online.rows,
        row.ip = ip → row.label = info.label → info.ip = ip
    | .timeout _ renewed _ _ =>
      (∃ statement < master.infos.rows.length, renewed statement = .executed) →
        renewed master.infos.rows.length = .executed →
          ∀ statement < master.infos.rows.length, renewed statement = .executed

instance (master : State) : (action : Action) → Decidable (Careful zone master action)
  | .receive .. => inferInstanceAs (Decidable (_ ∧ ∀ info ∈ master.infos.rows, _))
  | .timeout .. => inferInstanceAs (Decidable (_ ∧ _))

end

/-- Every row after was there before, with a time that is not later, or has the time of the step. -/
def Later (time : Int) (before after : Tables) : Prop :=
  ∀ row ∈ after.online, time ≤ row.time ∨
    ∃ old ∈ before.online, old.label = row.label ∧ old.ip = row.ip ∧ old.time ≤ row.time

def Statement.Moves (time : Int) : Statement → Prop
  | .change apply => ∀ before after, apply before = some after → Later time before after
  | .commit => True

variable (time : Int) (tables : Tables)

theorem Later.refl : Later time tables tables :=
  fun row mem => .inr ⟨row,mem,rfl,rfl,le_refl _⟩

theorem later_of_subset {time : Int} {before after : Tables}
    (rows : ∀ row ∈ after.online, row ∈ before.online) : Later time before after :=
  fun row mem => .inr ⟨row,rows row mem,rfl,rfl,le_refl _⟩

theorem query_moves : query.Moves time := by
  intro before after same
  cases same
  exact .refl time before

variable (label : UInt8)

theorem deletePool_moves : (deletePool label).Moves time := by
  intro before after deleted
  dsimp only at deleted
  split_ifs at deleted
  cases deleted
  exact later_of_subset fun _ mem => mem

theorem insertPool_moves : (insertPool label).Moves time := by
  intro before after added
  obtain ⟨pool,_,rfl⟩ := Option.map_eq_some_iff.mp added
  exact later_of_subset fun _ mem => mem

variable (ip : UInt32)

theorem insertOnline_moves : (insertOnline ⟨label,ip,time⟩).Moves time := by
  intro before after added
  obtain ⟨online,fresh,rfl⟩ := Option.map_eq_some_iff.mp added
  intro row mem
  rcases (Table.mem_insert fresh).mp mem with rfl | there
  · exact .inl (le_refl _)
  · exact .inr ⟨row,there,rfl,rfl,le_refl _⟩

theorem deleteOnline_moves : (deleteOnline label).Moves time := by
  intro before after deleted
  cases deleted
  exact later_of_subset fun _ mem => (Table.mem_delete.mp mem).1

theorem updateOnline_moves (zone : Int → Int) (info : LabelInfo) : (updateOnline zone info).Moves time := by
  intro before after updated
  cases updated
  intro row mem
  change row ∈ before.online.update (renewRow zone info) (renewRow_label zone info) at mem
  obtain ⟨old,there,rfl⟩ := Table.mem_update.mp mem
  obtain ⟨ip,later,_⟩ := Master.renewRow_later zone info old
  exact .inr ⟨old,there,(renewRow_label zone info old).symm,ip.symm,later⟩

theorem recycleStatements_moves (ress : Nat → Result) :
    ∀ entry ∈ recycleStatements label ress, entry.2.Moves time := by
  simp only [recycleStatements,forall_mem_cons]
  exact ⟨insertPool_moves time label,query_moves time,trivial,by simp⟩

theorem rentStatements_moves (ress : Nat → Result) :
    ∀ entry ∈ rentStatements ⟨label,ip,time⟩ ress, entry.2.Moves time := by
  simp only [rentStatements,forall_mem_cons]
  exact ⟨insertOnline_moves time label ip,query_moves time,trivial,by simp⟩

def Session.All (holds : Tables → Prop) (session : Session) : Prop :=
  holds session.committed ∧ holds session.working

section
variable {zone : Int → Int} {now : TimeT} {holds : Tables → Prop}
  (stable : ∀ before after, holds before → Later (zone now.toInt) before after → holds after)
  {session : Session} (all : session.All holds)
include stable all

theorem execute_all {stmt : Statement} (moves : stmt.Moves (zone now.toInt)) (res : Result) :
    (session.execute res stmt).1.All holds := by
  obtain ⟨committed,working⟩ := all
  cases res with
  | failed => exact ⟨committed,working⟩
  | lost => exact ⟨committed,committed⟩
  | executed =>
    cases stmt with
    | commit => exact ⟨working,working⟩
    | change apply =>
      unfold Session.execute
      dsimp only
      cases applied : apply session.working with
      | none => exact ⟨committed,working⟩
      | some after => exact ⟨committed,stable _ _ working (moves _ _ applied)⟩

theorem run_all {statements : List (Result × Statement)}
    (moves : ∀ entry ∈ statements, entry.2.Moves (zone now.toInt)) :
    (session.run statements).1.All holds := by
  induction statements generalizing session with
  | nil => exact all
  | cons entry rest ih =>
    obtain ⟨first,later⟩ := forall_mem_cons.mp moves
    obtain ⟨res,stmt⟩ := entry
    have next := execute_all stable all first res
    unfold Session.run
    generalize session.execute res stmt = outcome at next ⊢
    obtain ⟨after,_ | _⟩ := outcome
    · exact next
    · exact ih next later

omit stable in
theorem rollback_all (res : Result) : (session.rollback res).All holds := by
  cases res with
  | failed => exact all
  | executed | lost => exact ⟨all.1,all.1⟩

variable (ress : Nat → Result)

theorem renewRows_all (infos : List LabelInfo) (stmt : Nat) :
    (renewRows zone ress infos stmt session).1.All holds := by
  induction infos generalizing stmt session with
  | nil => exact all
  | cons info rest ih => exact ih (execute_all stable all (updateOnline_moves _ zone info) _) (stmt+1)

theorem recycleRows_all (ress : UInt8 → Nat → Result) (labels : List UInt8) (needRollback : Bool) :
    (recycleRows ress labels needRollback session).All holds := by
  induction labels generalizing needRollback session with
  | nil => exact all
  | cons label rest ih =>
    have deleted := execute_all stable all (deleteOnline_moves _ label) (ress label 0)
    unfold recycleRows
    generalize session.execute (ress label 0) (deleteOnline label) = outcome at deleted ⊢
    obtain ⟨next,_ | _⟩ := outcome
    · dsimp only
      split
      · exact rollback_all deleted _
      · exact deleted
    · dsimp only
      split
      · exact ih deleted false
      · have moved := run_all stable deleted (recycleStatements_moves _ label (ress label))
        generalize next.run (recycleStatements label (ress label)) = outcome at moved ⊢
        obtain ⟨after,_ | _⟩ := outcome
        · exact rollback_all moved _
        · exact ih moved true

theorem recycle_all (expire : UInt32) (selected : Result) (ress : UInt8 → Nat → Result) :
    (recycle zone expire now selected ress session).All holds := by
  have read := execute_all stable all (query_moves _) selected
  unfold recycle
  generalize session.execute selected query = outcome at read ⊢
  obtain ⟨next,_ | _⟩ := outcome
  · exact read
  · exact recycleRows_all stable read ress _ false

theorem allocMove_all (label : UInt8) (ip : UInt32) (ress : Nat → Result) :
    (allocMove label ip (zone now.toInt) ress session).1.All holds := by
  have deleted := execute_all stable all (deletePool_moves _ label) (ress 2)
  unfold allocMove
  generalize session.execute (ress 2) (deletePool label) = outcome at deleted ⊢
  obtain ⟨next,_ | _⟩ := outcome
  · exact deleted
  · have moved := run_all stable deleted (rentStatements_moves _ label ip ress)
    dsimp only
    generalize next.run (rentStatements ⟨label,ip,zone now.toInt⟩ ress) = outcome at moved ⊢
    obtain ⟨after,_ | _⟩ := outcome
    · exact rollback_all moved _
    · exact moved

theorem allocLabel_all {choice : UInt8} {ip : UInt32} {ress : Nat → Result} :
    (allocLabel zone choice ip now ress session).1.All holds := by
  have read := execute_all stable all (query_moves _) (ress 1)
  unfold allocLabel
  generalize session.execute (ress 1) query = outcome at read ⊢
  obtain ⟨next,_ | _⟩ := outcome
  · exact read
  · dsimp only
    split
    · exact read
    · rename_i label _
      have moved := allocMove_all stable read label ip ress
      generalize allocMove label ip (zone now.toInt) ress next = outcome at moved ⊢
      obtain ⟨after,_ | _⟩ := outcome
      · exact moved
      · exact moved

theorem rent_all (expire : UInt32) (ip label : UInt32) (choice : UInt8) (ress : Nat → Result) :
    (rent zone expire now ip label choice ress session).1.All holds := by
  have read := execute_all stable all (query_moves _) (ress 0)
  unfold rent
  split_ifs
  · exact all
  · exact all
  · exact all
  · generalize session.execute (ress 0) query = outcome at read ⊢
    obtain ⟨next,_ | _⟩ := outcome
    · exact read
    · dsimp only
      split
      · exact read
      · split
        · exact allocLabel_all stable read
        · exact read

end

variable {res : Result} {session next : Session}

theorem execute_change {apply : Tables → Option Tables}
    (done : session.execute res (.change apply) = (next,true)) :
    ∃ working, apply session.working = some working ∧ next = {session with working := working} := by
  cases res with
  | failed | lost => cases done
  | executed =>
    unfold Session.execute at done
    dsimp only at done
    cases applied : apply session.working with
    | none =>
      rw [applied] at done
      cases done
    | some working =>
      rw [applied] at done
      exact ⟨working,rfl,(congrArg fst done).symm⟩

theorem execute_commit (done : session.execute res .commit = (next,true)) :
    next = ⟨session.working,session.working⟩ := by
  cases res with
  | failed | lost => cases done
  | executed => exact (congrArg fst done).symm

theorem execute_query (done : session.execute res query = (next,true)) : next = session := by
  obtain ⟨working,same,rfl⟩ := execute_change done
  cases same
  rfl

theorem run_cons {stmt : Statement} {rest : List (Result × Statement)}
    (done : session.run ((res,stmt)::rest) = (next,true)) :
    ∃ middle, session.execute res stmt = (middle,true) ∧ middle.run rest = (next,true) := by
  unfold Session.run at done
  generalize session.execute res stmt = outcome at done ⊢
  obtain ⟨middle,_ | _⟩ := outcome
  · cases done
  · exact ⟨middle,rfl,done⟩

variable {ress : Nat → Result} {row : Online}

theorem run_rentStatements
    (done : session.run (rentStatements row ress) = (next,true)) :
    next.All fun tables => row ∈ tables.online := by
  obtain ⟨added,insert,done⟩ := run_cons done
  obtain ⟨logged,log,done⟩ := run_cons done
  obtain ⟨last,commit,done⟩ := run_cons done
  obtain ⟨working,applied,rfl⟩ := execute_change insert
  obtain ⟨online,fresh,rfl⟩ := Option.map_eq_some_iff.mp applied
  have there := (Table.mem_insert fresh).mpr (.inl rfl)
  cases execute_query log
  cases execute_commit commit
  cases done
  exact ⟨there,there⟩

variable {granted : UInt8} {ip : UInt32}

theorem allocMove_granted {label : UInt8} {time : Int}
    (done : allocMove label ip time ress session = (next,some granted)) :
    next.All fun tables => ⟨granted,ip,time⟩ ∈ tables.online := by
  unfold allocMove at done
  generalize session.execute (ress 2) (deletePool label) = outcome at done
  obtain ⟨deleted,_ | _⟩ := outcome
  · cases done
  · dsimp only at done
    cases ran : deleted.run (rentStatements ⟨label,ip,time⟩ ress) with
    | mk after ok =>
      rw [ran] at done
      cases ok with
      | false => cases done
      | true =>
        cases done
        exact run_rentStatements ran

variable {zone : Int → Int} {choice : UInt8} {now : TimeT}

theorem allocLabel_granted (done : allocLabel zone choice ip now ress session = (next,.ok granted)) :
    next.All fun tables => ⟨granted,ip,zone now.toInt⟩ ∈ tables.online := by
  unfold allocLabel at done
  generalize session.execute (ress 1) query = outcome at done
  obtain ⟨read,_ | _⟩ := outcome
  · cases done
  · dsimp only at done
    split at done
    · cases done
    · rename_i label _
      cases moved : allocMove label ip (zone now.toInt) ress read with
      | mk after found =>
        rw [moved] at done
        cases found with
        | none => cases done
        | some label =>
          cases done
          exact allocMove_granted moved

theorem rent_granted {expire : UInt32} {ip label : UInt32}
    (done : rent zone expire now ip label choice ress session = (next,.ok granted)) :
    (∃ row ∈ session.working.online, row.label = granted ∧ row.ip = ip) ∨
      next.All fun tables => ⟨granted,ip,zone now.toInt⟩ ∈ tables.online := by
  unfold rent at done
  split_ifs at done with _ _ holds
  · cases done
  · cases done
    exact .inl (Master.holdValidLabel_row holds)
  · cases done
  · cases read : session.execute (ress 0) query with
    | mk after ok =>
      rw [read] at done
      cases ok with
      | false => cases done
      | true =>
        cases execute_query read
        dsimp only at done
        split at done
        · cases done
        · rename_i held found
          split_ifs at done with none
          · exact .inr (allocLabel_granted done)
          · cases done
            exact .inl (Master.getLabel_row found none)

variable {infos : List LabelInfo} {statement : Nat}

theorem mem_renewRows {online : Table Online.label}
    (mem : row ∈ Master.renewRows zone Master.executed infos statement online) :
    ∃ old ∈ online, old.label = row.label ∧ old.ip = row.ip ∧ old.time ≤ row.time ∧
      ∀ info ∈ infos, info.label = row.label → info.ip = row.ip → zone info.leaseTime.toInt ≤ row.time := by
  induction infos generalizing statement online with
  | nil => exact ⟨row,mem,rfl,rfl,le_refl _,by simp⟩
  | cons info rest ih =>
    obtain ⟨middle,there,label,ip,time,reached⟩ := ih mem
    have there : middle ∈ online.update (renewRow zone info) (renewRow_label zone info) := there
    obtain ⟨old,before,rfl⟩ := Table.mem_update.mp there
    obtain ⟨ip',time',reached'⟩ := Master.renewRow_later zone info old
    rw [renewRow_label] at label
    rw [ip'] at ip
    refine ⟨old,before,label,ip,time'.trans time,?_⟩
    intro other listed sameLabel sameIp
    rcases mem_cons.mp listed with rfl | listed
    · exact (reached' (label.trans sameLabel.symm) (ip.trans sameIp.symm)).trans time
    · exact reached other listed sameLabel sameIp

theorem renewRows_executed (session : Session)
    (every : ∀ later < infos.length, ress (statement+later) = .executed) :
    renewRows zone ress infos statement session =
      ({session with working := {session.working with
        online := Master.renewRows zone Master.executed infos statement
          session.working.online}},!infos.isEmpty) := by
  induction infos generalizing statement session with
  | nil => rfl
  | cons info rest ih =>
    have first : ress statement = .executed := every 0 (Nat.zero_lt_succ _)
    have later : ∀ later < rest.length, ress (statement+1+later) = .executed := by
      intro later bound
      have := every (later+1) (Nat.succ_lt_succ bound)
      rwa [Nat.add_assoc,Nat.add_comm 1]
    unfold renewRows
    rw [first]
    dsimp only [updateOnline]
    rw [ih _ later]
    rfl

theorem renewRows_needCommit (needCommit : (renewRows zone ress infos statement session).2 = true) :
    ∃ later < infos.length, ress (statement+later) = .executed := by
  induction infos generalizing statement session with
  | nil => cases needCommit
  | cons info rest ih =>
    have next : ∀ session, (renewRows zone ress rest (statement+1) session).2 = true →
        ∃ later < (info::rest).length, ress (statement+later) = .executed := by
      intro session needCommit
      obtain ⟨later,bound,executed⟩ := ih needCommit
      refine ⟨later+1,Nat.succ_lt_succ bound,?_⟩
      rwa [← Nat.add_assoc,Nat.add_right_comm]
    unfold renewRows at needCommit
    cases first : ress statement with
    | executed => exact ⟨0,Nat.zero_lt_succ _,first⟩
    | failed | lost =>
      rw [first] at needCommit
      exact next _ needCommit

section
variable {acked : List Ack} {infos : Table LabelInfo.label} {tables : Tables}

theorem covered_stable (known : ∀ ack ∈ acked, zone ack.time.toInt ≤ zone now.toInt) (before after : Tables)
    (covered : Covered zone acked infos before) (later : Later (zone now.toInt) before after) :
    Covered zone acked infos after := by
  intro ack mem row there label ip
  rcases later row there with fresh | ⟨old,before,label',ip',time⟩
  · exact .inl ((known ack mem).trans fresh)
  · rcases covered ack mem old before (label'.trans label) (ip'.trans ip) with reached | pending
    · exact .inl (reached.trans time)
    · exact .inr pending

theorem covered_renewed (covered : Covered zone acked infos tables) :
    Covered zone acked .empty
      {tables with online := Master.renewRows zone Master.executed infos.rows 0 tables.online} := by
  intro ack mem row there label ip
  obtain ⟨old,before,label',ip',time,reached⟩ := mem_renewRows there
  refine .inl ?_
  rcases covered ack mem old before (label'.trans label) (ip'.trans ip) with
    early | ⟨info,pending,same,same',lease⟩
  · exact early.trans time
  · exact lease.trans (reached info pending (same.trans label.symm) (same'.trans ip.symm))

theorem remember_keeps {info old : LabelInfo} (mem : old ∈ infos) :
    ∃ entry ∈ Master.remember info infos, entry.label = old.label ∧ entry.ip = old.ip ∧
      (entry.leaseTime = old.leaseTime ∨ entry.leaseTime = info.leaseTime) := by
  unfold Master.remember
  split
  · rename_i next added
    exact ⟨old,(Table.mem_insert added).mpr (.inr mem),rfl,rfl,.inl rfl⟩
  · refine ⟨_,Table.mem_update.mpr ⟨old,mem,rfl⟩,?_⟩
    split
    · exact ⟨rfl,rfl,.inr rfl⟩
    · exact ⟨rfl,rfl,.inl rfl⟩

theorem remember_pending (info : LabelInfo) (own : ∀ old ∈ infos, old.label = info.label → old.ip = info.ip) :
    info ∈ Master.remember info infos := by
  unfold Master.remember
  split
  · rename_i next added
    exact (Table.mem_insert added).mpr (.inl rfl)
  · rename_i taken
    obtain ⟨old,mem,same⟩ := Table.has_iff.mp (Table.insert_eq_none.mp taken)
    refine Table.mem_update.mpr ⟨old,mem,?_⟩
    rw [if_pos same]
    have ip := own old mem same
    cases info
    cases same
    cases ip
    rfl

section
variable (known : ∀ ack ∈ acked, zone ack.time.toInt ≤ zone now.toInt)
include known

theorem covered_remember {label : UInt8} {ip : UInt32}
    (covered : Covered zone acked infos tables) :
    Covered zone acked (Master.remember ⟨label,ip,now⟩ infos) tables := by
  intro ack mem row there sameLabel sameIp
  rcases covered ack mem row there sameLabel sameIp with reached | ⟨info,pending,same,same',lease⟩
  · exact .inl reached
  · obtain ⟨entry,kept,label',ip',time⟩ := remember_keeps pending
    refine .inr ⟨entry,kept,label'.trans same,ip'.trans same',?_⟩
    rcases time with old | new
    · rw [old]
      exact lease
    · rw [new]
      exact known ack mem

theorem covered_granted {label : UInt8} {ip : UInt32}
    (covered : Covered zone acked infos tables)
    (backed : (∀ old ∈ infos, old.label = label → old.ip = ip) ∨ ⟨label,ip,zone now.toInt⟩ ∈ tables.online) :
    Covered zone (acked ++ [⟨label,ip,now⟩]) (Master.remember ⟨label,ip,now⟩ infos) tables := by
  intro ack mem
  rcases mem_append.mp mem with old | new
  · exact covered_remember known covered ack old
  · cases mem_singleton.mp new
    intro row there sameLabel _
    rcases backed with own | added
    · exact .inr ⟨_,remember_pending ⟨label,ip,now⟩ own,rfl,rfl,le_refl _⟩
    · cases Table.eq_of_key there added sameLabel
      exact .inl (le_refl _)

theorem renew_covered (covered : session.All (Covered zone acked infos))
    (careful : (∃ statement < infos.rows.length, ress statement = .executed) →
      ress infos.rows.length = .executed → ∀ statement < infos.rows.length, ress statement = .executed) :
    (renew zone ress infos session).2.All (Covered zone acked (renew zone ress infos session).1) := by
  have updated := renewRows_all (covered_stable known) covered ress infos.rows 0
  unfold renew
  cases ran : renewRows zone ress infos.rows 0 session with
  | mk next needCommit =>
    rw [ran] at updated
    cases needCommit with
    | false => exact updated
    | true =>
      cases commit : ress infos.rows.length with
      | failed => exact updated
      | lost => exact ⟨updated.1,updated.1⟩
      | executed =>
        have some : ∃ statement < infos.rows.length, ress statement = .executed := by
          obtain ⟨statement,bound,executed⟩ := renewRows_needCommit (congrArg snd ran)
          rw [Nat.zero_add] at executed
          exact ⟨statement,bound,executed⟩
        have every : ∀ later < infos.rows.length, ress (0+later) = .executed := by
          intro later bound
          rw [Nat.zero_add]
          exact careful some commit later bound
        rw [renewRows_executed session every] at ran
        cases congrArg fst ran
        have renewed := covered_renewed covered.2
        exact ⟨renewed,renewed⟩

end

end

/-- What holds of every state: both tables have every lease that was answered, none of them later
than the clock. -/
structure Sound (zone : Int → Int) (master : State) : Prop where
  known : ∀ ack ∈ master.acked, zone ack.time.toInt ≤ zone master.now.toInt
  covered : master.session.All (Covered zone master.acked master.infos)

variable (expire : UInt32) {msg : MessageHead}

theorem receive_sound {master : State} (sound : Sound zone master)
    (careful : Careful zone master (.receive now ip msg choice ress)) :
    Sound zone (receive zone expire now ip msg choice ress master).1 := by
  obtain ⟨forward,own⟩ := careful
  have known : ∀ ack ∈ master.acked, zone ack.time.toInt ≤ zone now.toInt :=
    fun ack mem => (sound.known ack mem).trans forward
  unfold receive
  dsimp only
  split_ifs
  · exact ⟨known,sound.covered⟩
  · have rented := rent_all (covered_stable known) sound.covered expire ip msg.value1 choice ress
    cases done : rent zone expire now ip msg.value1 choice ress master.session with
    | mk session res =>
      rw [done] at rented
      cases res with
      | error errcode => exact ⟨known,rented⟩
      | ok label =>
        refine ⟨?_,?_⟩
        · intro ack mem
          rcases mem_append.mp mem with old | new
          · exact known ack old
          · cases mem_singleton.mp new
            exact le_refl _
        · rcases rent_granted done with ⟨row,there,rfl,rfl⟩ | ⟨committed,working⟩
          · have own : ∀ old ∈ master.infos, old.label = row.label → old.ip = row.ip :=
              fun old pending same => own old pending row there rfl same.symm
            exact ⟨covered_granted known rented.1 (.inl own),covered_granted known rented.2 (.inl own)⟩
          · exact ⟨covered_granted known rented.1 (.inr committed),
              covered_granted known rented.2 (.inr working)⟩
  · exact ⟨known,sound.covered⟩

theorem step_sound (master : State) (act : Action) (sound : Sound zone master)
    (careful : Careful zone master act) : Sound zone (step zone expire master act).1 := by
  cases act with
  | receive now ip msg choice ress => exact receive_sound expire sound careful
  | timeout now renewed selected recycled =>
    obtain ⟨forward,whole⟩ := careful
    have known : ∀ ack ∈ master.acked, zone ack.time.toInt ≤ zone now.toInt :=
      fun ack mem => (sound.known ack mem).trans forward
    exact ⟨known,recycle_all (covered_stable known) (renew_covered known sound.covered whole) expire
      selected recycled⟩

/-- In a run whose steps are careful every lease that was answered stays in its row or pending. -/
theorem renewals_kept (zone : Int → Int) (expire : UInt32) (now : TimeT) (tables : Tables)
    (actions : List Action)
    (careful : Run.Meets (Careful zone) (step zone expire) (start now tables) actions) :
    (final (step zone expire) (start now tables) actions).Kept zone := by
  have sound : Sound zone (final (step zone expire) (start now tables) actions) := by
    apply invariant (Sound zone) (step_sound expire)
    · refine ⟨by simp [start],?_⟩
      constructor <;> intro ack member <;> cases member
    · exact careful
  exact sound.covered.1

def Session.clean (tables : Tables) : Session := ⟨tables,tables⟩

theorem clean_working : (Session.clean tables).working = tables := rfl

theorem clean_query : (Session.clean tables).execute .executed query = (.clean tables,true) := rfl

theorem renew_executed (infos : Table LabelInfo.label) (tables : Tables) :
    let after := Master.renew zone Master.executed ⟨infos,tables⟩
    renew zone (fun _ => .executed) infos (.clean tables) = (after.infos,.clean after.tables) := by
  rw [Master.renew_executed]
  unfold renew
  rw [renewRows_executed _ (fun _ _ => rfl)]
  obtain ⟨rows,unique⟩ := infos
  cases rows with
  | nil | cons info rest => rfl

/-- The statements behind the first one of a transaction, which end with the log and the commit. -/
theorem run_executed (apply : Tables → Option Tables) (session : Session) :
    session.run [(.executed,.change apply),(.executed,insertLog),(.executed,.commit)] =
      (apply session.working).elim (session,false) fun tables => (.clean tables,true) := by
  cases applied : apply session.working with
  | none => simp [Session.run,Session.execute,applied]
  | some tables => simp [Session.run,Session.execute,insertLog,applied,Session.clean]

theorem recycleRows_executed (labels : List UInt8) (needRollback : Bool) (tables : Tables) :
    recycleRows (fun _ _ => .executed) labels needRollback (.clean tables) =
      .clean (Master.recycleRows (fun _ => Master.executed) labels tables) := by
  induction labels generalizing needRollback tables with
  | nil => rfl
  | cons label rest ih =>
    have deleted : (Session.clean tables).execute .executed (deleteOnline label) =
      (⟨tables,{tables with online := tables.online.delete label}⟩,true) := rfl
    unfold recycleRows Master.recycleRows Master.recycleRow
    rw [deleted]
    dsimp only [Master.executed,recycleStatements,insertPool]
    rw [run_executed,clean_working]
    by_cases there : tables.online.has label = true
    · rw [there]
      cases tables.pool.insert label with
      | none => rfl
      | some pool => exact ih true ⟨pool,tables.online.delete label⟩
    · have absent : tables.online.has label = false := Bool.eq_false_iff.mpr there
      rw [absent,Table.delete_absent absent]
      exact ih false tables

variable {tables : Tables}

theorem allocMove_executed {time : Int} :
    allocMove label ip time (fun _ => .executed) (.clean tables) =
      (Master.allocMove label ip time Master.executed tables).map .clean id := by
  unfold allocMove Master.allocMove
  dsimp only [Session.execute,deletePool,Session.clean,rentStatements,insertOnline]
  cases there : tables.pool.has label with
  | false => rfl
  | true =>
    simp only [if_true,run_executed]
    cases tables.online.insert ⟨label,ip,time⟩ with
    | none | some online => rfl

theorem allocLabel_executed :
    allocLabel zone choice ip now (fun _ => .executed) (.clean tables) =
      (Master.allocLabel zone choice ip now Master.executed tables).map .clean id := by
  unfold allocLabel Master.allocLabel
  rw [clean_query]
  dsimp only
  rw [clean_working]
  cases Master.selectLabel choice tables.pool with
  | none => rfl
  | some label =>
    dsimp only
    rw [allocMove_executed]
    generalize Master.allocMove label ip (zone now.toInt) Master.executed tables = outcome
    obtain ⟨after,_ | _⟩ := outcome
    · rfl
    · rfl

theorem rent_executed {ip label : UInt32} :
    rent zone expire now ip label choice (fun _ => .executed) (.clean tables) =
      (Master.rent zone expire now ip label choice Master.executed tables).map .clean id := by
  unfold rent Master.rent
  rw [clean_working,clean_query]
  split_ifs
  · rfl
  · rfl
  · rfl
  · dsimp only
    rw [clean_working]
    cases Master.getLabel zone expire now ip tables.online with
    | none => rfl
    | some held =>
      dsimp only
      split_ifs
      · exact allocLabel_executed
      · rfl

def Action.executed : Action → Action
  | .receive now ip message choice _ => .receive now ip message choice fun _ => .executed
  | .timeout now .. => .timeout now (fun _ => .executed) .executed fun _ _ => .executed

/-- The step of a master whose transactions are atomic and do not fail. -/
def atomicStep (zone : Int → Int) (expire : UInt32) (master : Master.State) :
    Action → Master.State × Option MessageHead
  | .receive now ip message choice _ =>
    Master.receive zone expire now ip message choice Master.executed master
  | .timeout now .. => (Master.onTimeout zone expire now Master.executed (fun _ => Master.executed)
    master,none)

def Agree (master : State) (atomic : Master.State) : Prop :=
  ∃ now acked, master = ⟨now,atomic.infos,.clean atomic.tables,acked⟩

theorem step_executed {master : State} {atomic : Master.State} (action : Action)
    (agree : Agree master atomic) :
    Agree (step zone expire master action.executed).1 (atomicStep zone expire atomic action).1 ∧
      (atomicStep zone expire atomic action).2 = (step zone expire master action.executed).2 := by
  obtain ⟨_,acked,rfl⟩ := agree
  cases action with
  | receive now ip msg choice ress =>
    unfold step atomicStep Action.executed receive Master.receive Master.prepareResponseGetLabel
    dsimp only
    rw [rent_executed]
    generalize Master.rent zone expire now ip msg.value1 choice Master.executed atomic.tables = outcome
    obtain ⟨after,res⟩ := outcome
    split_ifs
    · exact ⟨⟨_,_,rfl⟩,rfl⟩
    · cases res with
      | ok label | error errcode => exact ⟨⟨_,_,rfl⟩,rfl⟩
    · exact ⟨⟨_,_,rfl⟩,rfl⟩
  | timeout now renewed selected recycled =>
    unfold step atomicStep Action.executed recycle
    dsimp only
    rw [renew_executed,clean_query]
    dsimp only
    rw [recycleRows_executed]
    exact ⟨⟨_,_,rfl⟩,rfl⟩

/-- When every statement is executed, the master over its session answers as one whose transactions
are atomic. -/
theorem executed_atomic (zone : Int → Int) (now : TimeT) (tables : Tables) (actions : List Action) :
    let executing := fun master action => step zone expire master action.executed
    Agree (final executing (start now tables) actions)
      (final (atomicStep zone expire) ⟨.empty,tables⟩ actions) ∧
      outputs (atomicStep zone expire) ⟨.empty,tables⟩ actions =
        outputs executing (start now tables) actions :=
  follows Agree (fun _ _ action agree _ => step_executed expire action agree) _ _ actions ⟨_,_,rfl⟩
    ((meets_forall _ _ actions).mpr fun _ _ => trivial)

def sampleTables : Tables := ⟨(Master.insertLabels Master.executed [1,2] 0 .empty).getD .empty,.empty⟩

def sampleRequest (now : TimeT) (ip : UInt32) (label : UInt32) : Action :=
  .receive now ip (MessageHead.updateMagic ⟨messageHeadSize,requestLabel,majorVersion,minorVersion,
    0,9,label,0,0⟩) 0
    fun _ => .executed

def sampleTimeout (now : TimeT) (renewed : Nat → Result) : Action :=
  .timeout now renewed .executed fun _ _ => .executed

/-- Two labels are rented and renewed; the first COMMIT of the renewals fails. -/
def sampleRenewals : List Action :=
  [sampleRequest 1000 7 0,sampleRequest 1001 8 0,
    sampleTimeout 1010 fun statement => if statement = 2 then .failed else .executed,
    sampleRequest 1060 7 2,sampleRequest 1061 8 1,sampleTimeout 1070 fun _ => .executed]

theorem renewals_kept_commit_failed : (final (step id 600) (start 900 sampleTables) sampleRenewals).acked =
      [⟨2,7,1000⟩,⟨1,8,1001⟩,⟨2,7,1060⟩,⟨1,8,1061⟩] ∧
    (final (step id 600) (start 900 sampleTables) sampleRenewals).Kept id :=
  ⟨by decide +kernel,renewals_kept id 600 900 sampleTables sampleRenewals (by decide +kernel)⟩

theorem renewal_lost : ¬ (final (step id 600) (start 900 sampleTables)
    [sampleRequest 1000 7 0,sampleRequest 1001 8 0,sampleRequest 1060 7 2,
      sampleTimeout 1070 fun statement => if statement = 1 then .failed else .executed]).Kept id := by
  decide +kernel

end Mooon.UniqId.Renewal

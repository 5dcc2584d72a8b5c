import Mooon.Run
import Mooon.DbProxy.SqlLog

/-! `CDbProcess::handle_file` on one log file, against a MySQL server that may reject a
statement or lose the connection at any call. Records are identified by their position in
the file. A new connection made by `connect_db` commits per batch if `batch` is above 1;
one made by the client's automatic reconnection has the server's default, autocommit. -/
namespace Mooon.DbProxy
open List Option Run

structure Config where
  batch : UInt8
  efficiency : UInt16

/-- The answer to an update or a commit. A rejection may roll the transaction back; a
connection may be lost before or after the server has done the work. -/
inductive Result where
  | ok
  | rejected (rollback : Bool)
  | disconnected (applied : Bool)

inductive Phase where
  | reading
  | executing (record : Record)
  | committing (record : Record) (endTime : Int64)
  | saving

structure Session where
  autocommit : Bool
  transaction : List Record

structure Server where
  committed : List Record
  rejected : List Record

/-- `saved` is in the progress file, `progress` in the memory of the process. -/
structure State where
  position : Nat
  offset : UInt32
  phase : Phase
  batch : Nat
  beginTime : Int64
  session : Session
  server : Server
  saved : Option UInt32
  progress : Option UInt32

inductive Action where
  | read
  | update (result : Result) (endTime : Int64)
  | commit (result : Result)
  | updateProgress (written : Bool)
  | reconnect
  | reopen
  | restart (now : Int64)

section
variable (state : State) (config : Config) (file : Bytes) (log : List Bytes)

def State.interval (endTime : Int64) : Int := (endTime - state.beginTime).toInt32.toInt

def State.nextBeginTime (state : State) (endTime : Int64) : Int64 :=
  if (config.efficiency.toNat : Int) ≤ state.interval endTime then endTime else state.beginTime

def connectDb : Session := ⟨config.batch ≤ 1,[]⟩

def State.enter : State :=
  {state with
    position := (state.progress.getD 0).toNat
    offset := state.progress.getD 0
    phase := .reading}

def State.start (now : Int64) (server : Server) (saved : Option UInt32) : State :=
  State.enter ⟨0,0,.reading,0,now,connectDb config,server,saved,saved⟩

def State.execute (record : Record) : State :=
  if state.session.autocommit then {state with server.committed := record::state.server.committed}
  else {state with session.transaction := record::state.session.transaction}

def State.commit : State :=
  {state with
    server.committed := state.session.transaction ++ state.server.committed
    session.transaction := []}

def State.reject (record : Record) (rollback : Bool) : State :=
  {state with
    server.rejected := record::state.server.rejected
    session.transaction := if rollback then [] else state.session.transaction
    phase := .reading}

def State.disconnect : State := {state with session := ⟨true,[]⟩}

def State.CommitDue (state : State) (endTime : Int64) : Prop :=
  config.batch.toNat ≤ state.batch+1 ∨ 1 < state.interval endTime
deriving Decidable

def State.updated (state : State) (record : Record) (endTime : Int64) : State :=
  if config.batch ≤ 1 then
    {state.execute record with phase := .saving, beginTime := state.nextBeginTime config endTime}
  else if state.CommitDue config endTime then
    {state.execute record with phase := .committing record endTime, batch := state.batch+1}
  else {state.execute record with phase := .saving, batch := state.batch+1}

def State.read (state : State) : State :=
  match readRecord (file.drop state.position) with
  | .record sql rest =>
    let position := file.length - rest.length
    {state with
      position := position
      offset := state.offset + UInt32.ofNat (position - state.position)
      phase := .executing ⟨state.position,sql⟩}
  | .eof | .died => state

def handleFile (state : State) : Action → State
  | .read =>
    match state.phase with
    | .reading => state.read file
    | _ => state
  | .update result endTime =>
    match state.phase, result with
    | .executing record, .ok => state.updated config record endTime
    | .executing record, .rejected rollback => state.reject record rollback
    -- the same statement is tried again, with those before it in the transaction lost
    | .executing record, .disconnected applied =>
      if applied && state.session.autocommit then (state.execute record).disconnect else state.disconnect
    | _, _ => state
  | .commit result =>
    match state.phase, result with
    | .committing _ endTime, .ok =>
      {state.commit with phase := .saving, batch := 0, beginTime := state.nextBeginTime config endTime}
    | .committing record _, .rejected rollback => state.reject record rollback
    | .committing record _, .disconnected applied =>
      {(if applied then state.commit else state).disconnect with phase := .executing record}
    | _, _ => state
  | .updateProgress written =>
    match state.phase, written with
    | .saving, true =>
      {state with saved := some state.offset, progress := some state.offset, phase := .reading}
    -- `handle_file` is left with the progress changed in memory only
    | .saving, false => {state with progress := some state.offset}.enter
    | _, _ => state
  -- the client reconnects by itself only outside a transaction
  | .reconnect => if state.session.transaction = [] then state.disconnect else state
  -- a failed read leaves `handle_file`, a later pass over the directory enters it again
  | .reopen =>
    match state.phase with
    | .reading => state.enter
    | _ => state
  | .restart now => State.start config now state.server state.saved

def deliver (state : State) (action : Action) : State × Unit :=
  (handleFile config file state action,())

def Server.Settled (server : Server) (record : Record) : Prop :=
  record ∈ server.committed ∨ record ∈ server.rejected

def Delivered (state : State) : Prop :=
  ∀ saved ∈ state.saved, ∀ record index, Located log record index → boundary log (index+1) ≤ saved.toNat →
    state.server.Settled record

def CommitsAtOnce (state : State) : Action → Prop
  | .update .ok endTime => config.batch ≤ 1 ∨ state.session.autocommit = true ∨ state.CommitDue config endTime
  | _ => True

instance (config : Config) (state : State) : DecidablePred (CommitsAtOnce config state)
  | .update .ok _ => inferInstanceAs (Decidable (_ ∨ _ ∨ _))
  | .update (.rejected _) _ | .update (.disconnected _) _ | .read | .commit _ | .updateProgress _ | .reconnect
  | .reopen | .restart _ => isTrue trivial

def SettledBefore (server : Server) (index : Nat) : Prop :=
  ∀ record before, Located log record before → before < index → server.Settled record

def Placed (state : State) (index : Nat) : Prop :=
  SettledBefore log state.server index ∧
    match state.phase with
    | .reading | .saving => state.position = boundary log index
    | .executing record => Located log record index ∧ state.position = boundary log (index+1)
    | .committing record _ => Located log record index ∧ state.position = boundary log (index+1) ∧
      (record ∈ state.session.transaction ∨ record ∈ state.server.committed)

end

structure Tracked (config : Config) (log : List Bytes) (state : State) : Prop where
  autocommit : config.batch ≤ 1 → state.session.autocommit = true
  offset : state.offset.toNat = state.position
  placed : ∃ index, Placed log state index
  known : ∀ offset, offset ∈ state.saved ∨ offset ∈ state.progress →
    ∃ index, offset.toNat = boundary log index ∧ SettledBefore log state.server index

structure Server.Grows (before after : Server) : Prop where
  committed : before.committed ⊆ after.committed
  rejected : before.rejected ⊆ after.rejected

theorem Server.Grows.refl (server : Server) : server.Grows server := ⟨List.Subset.refl _,List.Subset.refl _⟩

variable {before after : Server} {record : Record}

theorem Server.Settled.grows (settled : before.Settled record)
    (grows : before.Grows after) : after.Settled record :=
  settled.imp (fun mem => grows.committed mem) (fun mem => grows.rejected mem)

variable {log : List Bytes} {index : Nat}

theorem SettledBefore.grows (settled : SettledBefore log before index) (grows : before.Grows after) :
    SettledBefore log after index :=
  fun record earlier located order => (settled record earlier located order).grows grows

theorem SettledBefore.next {server : Server}
    (settled : SettledBefore log server index) (located : Located log record index)
    (done : server.Settled record) : SettledBefore log server (index+1) := by
  intro other earlier place order
  rcases Nat.lt_succ_iff_lt_or_eq.mp order with before | rfl
  · exact settled other earlier place before
  · rw [place.unique located]
    exact done

variable (state : State) (record : Record)

theorem execute_grows : state.server.Grows (state.execute record).server := by
  unfold State.execute
  split
  · exact ⟨subset_cons_self _ _,List.Subset.refl _⟩
  · exact .refl _

theorem commit_grows : state.server.Grows state.commit.server :=
  ⟨subset_append_right _ _,List.Subset.refl _⟩

theorem reject_grows (rollback : Bool) : state.server.Grows (state.reject record rollback).server :=
  ⟨List.Subset.refl _,subset_cons_self _ _⟩

@[simp] theorem execute_position : (state.execute record).position = state.position := by
  unfold State.execute
  split <;> rfl

@[simp] theorem execute_offset : (state.execute record).offset = state.offset := by
  unfold State.execute
  split <;> rfl

@[simp] theorem execute_saved : (state.execute record).saved = state.saved := by
  unfold State.execute
  split <;> rfl

@[simp] theorem execute_progress : (state.execute record).progress = state.progress := by
  unfold State.execute
  split <;> rfl

@[simp] theorem execute_phase : (state.execute record).phase = state.phase := by
  unfold State.execute
  split <;> rfl

@[simp] theorem execute_autocommit :
    (state.execute record).session.autocommit = state.session.autocommit := by
  unfold State.execute
  split <;> rfl

theorem mem_execute : record ∈ (state.execute record).session.transaction ∨
    record ∈ (state.execute record).server.committed := by
  unfold State.execute
  split
  · exact Or.inr mem_cons_self
  · exact Or.inl mem_cons_self

theorem execute_settled (autocommit : state.session.autocommit = true) :
    (state.execute record).server.Settled record := by
  unfold State.execute
  rw [if_pos autocommit]
  exact Or.inl mem_cons_self

section
variable {cfg : Config} {log : List Bytes} {state : State}

theorem Tracked.advance (tracked : Tracked cfg log state) (next : State)
    (autocommit : cfg.batch ≤ 1 → next.session.autocommit = true) (offset : next.offset = state.offset)
    (pos : next.position = state.position) (saved : next.saved = state.saved)
    (progress : next.progress = state.progress) (grows : state.server.Grows next.server)
    (placed : ∃ index, Placed log next index) : Tracked cfg log next := by
  refine ⟨autocommit,?_,placed,?_⟩
  · rw [offset,pos]
    exact tracked.offset
  · intro offset mem
    rw [saved,progress] at mem
    obtain ⟨index,place,settled⟩ := tracked.known offset mem
    exact ⟨index,place,settled.grows grows⟩

theorem read_tracked (fits : ∀ sql ∈ log, sql.length < 2^31) (short : (encodeAll log).length < 2^32)
    (tracked : Tracked cfg log state) (reading : state.phase = .reading) :
    Tracked cfg log (state.read (encodeAll log)) := by
  obtain ⟨index,settled,place⟩ := tracked.placed
  simp only [reading] at place
  have total := boundary_rest log (index+1)
  unfold State.read
  rw [place]
  cases found : log[index]? with
  | none =>
    have ended := List.getElem?_eq_none_iff.mp found
    rw [drop_boundary,drop_eq_nil_of_le ended]
    exact tracked
  | some sql =>
    rw [readRecord_boundary log fits index sql found]
    have length := boundary_succ log index sql found
    have pos : (encodeAll log).length - (encodeAll (log.drop (index+1))).length =
        boundary log (index+1) := by omega
    refine ⟨tracked.autocommit,?_,⟨index,settled,⟨found,rfl⟩,pos⟩,tracked.known⟩
    simp only [UInt32.toNat_add,UInt32.toNat_ofNat',tracked.offset]
    omega

section
variable (tracked : Tracked cfg log state)
include tracked

theorem updated_tracked {record : Record} {endTime : Int64}
    (executing : state.phase = .executing record)
    (atOnce : cfg.batch ≤ 1 ∨ state.session.autocommit = true ∨ state.CommitDue cfg endTime) :
    Tracked cfg log (state.updated cfg record endTime) := by
  obtain ⟨index,settled,place⟩ := tracked.placed
  simp only [executing] at place
  obtain ⟨located,pos⟩ := place
  have grown := settled.grows (execute_grows state record)
  have saving (autocommit : state.session.autocommit = true) :
      SettledBefore log (state.execute record).server (index+1) :=
    grown.next located (execute_settled state record autocommit)
  unfold State.updated
  split_ifs with single due
  · refine tracked.advance _ ?_ (by simp) (by simp) (by simp) (by simp) (execute_grows state record)
      ⟨index+1,saving (tracked.autocommit single),by simpa using pos⟩
    simpa using tracked.autocommit
  · refine tracked.advance _ ?_ (by simp) (by simp) (by simp) (by simp) (execute_grows state record)
      ⟨index,grown,located,by simpa using pos,mem_execute state record⟩
    simpa using tracked.autocommit
  · have autocommit : state.session.autocommit = true := by
      rcases atOnce with small | autocommit | now
      · exact absurd small single
      · exact autocommit
      · exact absurd now due
    refine tracked.advance _ ?_ (by simp) (by simp) (by simp) (by simp) (execute_grows state record)
      ⟨index+1,saving autocommit,by simpa using pos⟩
    simpa using tracked.autocommit

theorem reject_tracked {record : Record} {rollback : Bool}
    (cur : ∃ index, SettledBefore log state.server index ∧ Located log record index ∧
      state.position = boundary log (index+1)) : Tracked cfg log (state.reject record rollback) := by
  obtain ⟨index,settled,located,pos⟩ := cur
  have grown := settled.grows (reject_grows state record rollback)
  exact tracked.advance _ tracked.autocommit rfl rfl rfl rfl (reject_grows state record rollback)
    ⟨index+1,grown.next located (Or.inr mem_cons_self),pos⟩

theorem enter_tracked : Tracked cfg log state.enter := by
  refine ⟨tracked.autocommit,rfl,?_,tracked.known⟩
  cases reached : state.progress with
  | none =>
    refine ⟨0,?_,?_⟩
    · intro record before _ order
      exact absurd order (Nat.not_lt_zero before)
    · simp [State.enter,reached,boundary]
  | some progress =>
    obtain ⟨index,place,settled⟩ := tracked.known progress (.inr reached)
    refine ⟨index,settled,?_⟩
    simpa [State.enter,reached] using place

end

theorem start_tracked (cfg : Config) (log : List Bytes) (now : Int64) (server : Server)
    (saved : Option UInt32)
    (progress : ∀ offset ∈ saved, ∃ index, offset.toNat = boundary log index ∧
      SettledBefore log server index) :
    Tracked cfg log (State.start cfg now server saved) := by
  have fresh : Tracked cfg log ⟨0,0,.reading,0,now,connectDb cfg,server,saved,saved⟩ := by
    refine ⟨?_,rfl,⟨0,?_,rfl⟩,fun offset mem => progress offset (mem.elim id id)⟩
    · intro single
      simp [connectDb,single]
    · intro record before _ order
      exact absurd order (Nat.not_lt_zero before)
  exact enter_tracked fresh

section
variable (tracked : Tracked cfg log state)
include tracked

variable (file : Bytes) {res : Result}

theorem update_tracked {endTime : Int64}
    (atOnce : CommitsAtOnce cfg state (.update res endTime)) :
    Tracked cfg log (handleFile cfg file state (.update res endTime)) := by
  unfold handleFile
  obtain ⟨index,settled,place⟩ := tracked.placed
  cases phase : state.phase with
  | reading | saving | committing => exact tracked
  | executing record =>
    simp only [phase] at place
    cases res with
    | ok => exact updated_tracked tracked phase atOnce
    | rejected rollback => exact reject_tracked tracked ⟨index,settled,place⟩
    | disconnected applied =>
      dsimp only
      split
      · refine tracked.advance _ (fun _ => rfl) (by simp [State.disconnect]) (by simp [State.disconnect])
          (by simp [State.disconnect]) (by simp [State.disconnect]) (execute_grows state record)
          ⟨index,settled.grows (execute_grows state record),?_⟩
        simpa [phase,State.disconnect] using place
      · refine tracked.advance _ (fun _ => rfl) rfl rfl rfl rfl (.refl _) ⟨index,settled,?_⟩
        simpa [State.disconnect,phase] using place

theorem commit_tracked :
    Tracked cfg log (handleFile cfg file state (.commit res)) := by
  unfold handleFile
  obtain ⟨index,settled,place⟩ := tracked.placed
  cases phase : state.phase with
  | reading | saving | executing => exact tracked
  | committing record endTime =>
    simp only [phase] at place
    obtain ⟨located,pos,done⟩ := place
    have grown := settled.grows (commit_grows state)
    cases res with
    | ok =>
      have committed : state.commit.server.Settled record := Or.inl (List.mem_append.mpr done)
      exact tracked.advance _ tracked.autocommit rfl rfl rfl rfl (commit_grows state)
        ⟨index+1,grown.next located committed,pos⟩
    | rejected rollback => exact reject_tracked tracked ⟨index,settled,located,pos⟩
    | disconnected applied =>
      cases applied with
      | false => exact tracked.advance _ (fun _ => rfl) rfl rfl rfl rfl (.refl _) ⟨index,settled,located,pos⟩
      | true =>
        exact tracked.advance _ (fun _ => rfl) rfl rfl rfl rfl (commit_grows state)
          ⟨index,grown,located,pos⟩

theorem updateProgress_tracked {written : Bool} :
    Tracked cfg log (handleFile cfg file state (.updateProgress written)) := by
  unfold handleFile
  obtain ⟨index,settled,place⟩ := tracked.placed
  cases phase : state.phase with
  | reading | executing | committing => exact tracked
  | saving =>
    simp only [phase] at place
    have reached {offset : UInt32} (now : offset ∈ some state.offset) :
        ∃ index, offset.toNat = boundary log index ∧ SettledBefore log state.server index := by
      cases Option.some.inj now
      exact ⟨index,tracked.offset.trans place,settled⟩
    cases written with
    | true =>
      exact ⟨tracked.autocommit,tracked.offset,⟨index,settled,place⟩,
        fun offset mem => mem.elim reached reached⟩
    | false =>
      refine enter_tracked ⟨tracked.autocommit,tracked.offset,⟨index,settled,place⟩,fun offset mem => ?_⟩
      exact mem.elim (fun old => tracked.known offset (.inl old)) reached

theorem reconnect_tracked : Tracked cfg log (handleFile cfg file state .reconnect) := by
  unfold handleFile
  split_ifs with empty
  · refine tracked.advance _ (fun _ => rfl) rfl rfl rfl rfl (.refl _) ?_
    obtain ⟨index,settled,place⟩ := tracked.placed
    refine ⟨index,settled,?_⟩
    simpa [State.disconnect,empty] using place
  · exact tracked

end

theorem deliver_tracked (fits : ∀ sql ∈ log, sql.length < 2^31) (short : (encodeAll log).length < 2^32)
    (tracked : Tracked cfg log state) {act : Action} (atOnce : CommitsAtOnce cfg state act) :
    Tracked cfg log (deliver cfg (encodeAll log) state act).1 := by
  unfold deliver
  cases act with
  | read =>
    unfold handleFile
    cases phase : state.phase with
    | reading => exact read_tracked fits short tracked phase
    | executing | committing | saving => exact tracked
  | update res endTime => exact update_tracked tracked (encodeAll log) atOnce
  | commit res => exact commit_tracked tracked (encodeAll log)
  | updateProgress written => exact updateProgress_tracked tracked (encodeAll log)
  | reconnect => exact reconnect_tracked tracked (encodeAll log)
  | reopen =>
    unfold handleFile
    cases state.phase with
    | reading => exact enter_tracked tracked
    | executing | committing | saving => exact tracked
  | restart now =>
    exact start_tracked cfg log now state.server state.saved fun offset mem =>
      tracked.known offset (.inl mem)

theorem Tracked.delivered (tracked : Tracked cfg log state) : Delivered log state := by
  intro saved mem record index located order
  obtain ⟨reached,place,settled⟩ := tracked.known saved (.inl mem)
  apply settled record index located
  by_contra later
  have behind := boundary_mono log (not_lt.mp later)
  have length := boundary_succ log index record.sql located.1
  omega

end

/-- Where every successful update is committed before the next record is read, the saved
progress never passes a record that is neither committed nor rejected. -/
theorem progress_delivered (config : Config) (log : List Bytes) (now : Int64) (actions : List Action)
    (fits : ∀ sql ∈ log, sql.length < 2^31) (short : (encodeAll log).length < 2^32)
    (atOnce : Run.Meets (CommitsAtOnce config) (deliver config (encodeAll log))
      (State.start config now ⟨[],[]⟩ none) actions) :
    Delivered log (final (deliver config (encodeAll log)) (State.start config now ⟨[],[]⟩ none) actions) := by
  have start := start_tracked config log now ⟨[],[]⟩ none (fun _ absent => absurd absent (not_mem_none _))
  have tracked := invariant (Tracked config log)
    (fun _ action tracked atOnce => deliver_tracked fits short tracked atOnce) _ actions start atOnce
  exact tracked.delivered

def sampleLog : List Bytes := [[97],[98]]

def sampleDelivery : List Action :=
  [.reconnect,.read,.update .ok 0,.updateProgress true,.read,.update (.disconnected false) 0,.update .ok 0,
    .commit (.disconnected false),.update .ok 0,.commit .ok,.updateProgress true,.restart 0,.read]

theorem progress_delivered_two :
    (final (deliver ⟨2,60⟩ (encodeAll sampleLog)) (State.start ⟨2,60⟩ 0 ⟨[],[]⟩ none)
      sampleDelivery).saved = some 10 ∧
      Delivered sampleLog
        (final (deliver ⟨2,60⟩ (encodeAll sampleLog)) (State.start ⟨2,60⟩ 0 ⟨[],[]⟩ none) sampleDelivery) :=
  ⟨by decide +kernel,progress_delivered ⟨2,60⟩ sampleLog 0 sampleDelivery (by decide) (by decide)
    (by decide +kernel)⟩

theorem progress_undelivered : ¬ Delivered sampleLog
    (final (deliver ⟨2,60⟩ (encodeAll sampleLog)) (State.start ⟨2,60⟩ 0 ⟨[],[]⟩ none)
      [.read,.update .ok 0,.updateProgress true,.restart 0]) := by
  intro delivered
  have settled := delivered 5 (by decide +kernel) ⟨0,[97]⟩ 0 ⟨rfl,rfl⟩ (by decide)
  revert settled
  unfold Server.Settled
  decide +kernel

end Mooon.DbProxy

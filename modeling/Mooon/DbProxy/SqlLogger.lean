import Mooon.Run
import Mooon.DbProxy.SqlLog
import Mathlib.Data.Prod.Lex

/-! `CSqlLogger`: the files of its directory, their rotation and `write_log`. A file is
known by its inode; its name may be given again to another one once it has left the
directory. The log directory and `fstat` of an open file are taken to work whenever
`listed` says so, and time is in seconds since the epoch. -/
namespace Mooon.DbProxy
open List Option Function Run

abbrev Filename := ℕ ×ₗ ℕ

/-- The inodes from `next` on are unused, and their files empty. -/
structure Directory where
  names : Nat → Filename
  bytes : Nat → Bytes
  next : Nat
  listed : List Nat

def Directory.empty : Directory := ⟨fun _ => toLex (0,0),fun _ => [],0,[]⟩

section
variable (directory : Directory) (name : Filename) (config : LogConfig) (logger : Logger)
  (log : Log) (call : Call)

def Directory.lookup : Option Nat :=
  directory.listed.find? (fun file => directory.names file = name)

def Directory.last : Option Filename := (directory.listed.map directory.names).max?

def Directory.create : Directory :=
  {directory with
    names := Function.update directory.names directory.next name
    next := directory.next+1
    listed := directory.next::directory.listed}

def Directory.openAppend : Directory × Nat :=
  match directory.lookup name with
  | some file => (directory,file)
  | none => (directory.create name,directory.next)

def Directory.append (file : Nat) (data : Bytes) : Directory :=
  {directory with bytes := Function.update directory.bytes file (directory.bytes file ++ data)}

structure LogConfig where
  sqlFileSize : Int32
  lines : Int32

structure Logger where
  fd : Option Nat
  path : Option Filename
  timestamp : Nat
  suffix : Nat
  numLines : Int32

def Logger.start : Logger := ⟨none,none,0,0,0⟩

def needRotate (directory : Directory) (file : Nat) : Prop :=
  config.sqlFileSize ≤ Int32.ofNat (directory.bytes file).length
deriving Decidable

def Logger.getLogFilepath (now : Nat) : Logger × Filename :=
  let suffix := if now = logger.timestamp then logger.suffix+1 else 0
  ({logger with timestamp := now, suffix := suffix},toLex (now,suffix))

def Logger.nextFilepath (directory : Directory) (now : Nat) : Logger × Filename :=
  match logger.path, directory.last with
  | none, some name => (logger,name)
  | none, none | some _, _ => logger.getLogFilepath now

def Logger.opening (directory : Directory) (now : Nat) : Logger × Filename :=
  let (logger,name) := {logger with fd := none}.nextFilepath directory now
  ({logger with path := some name},name)

def rotateLog (now : Nat) (listed opened : Bool) : Directory × Logger :=
  if listed then
    let (logger,name) := logger.opening directory now
    if opened then
      let (directory,file) := directory.openAppend name
      (directory,{logger with fd := some file})
    else (directory,logger)
  else (directory,{logger with fd := none})

/-- A call of `write_log` with what the system calls in it do: `written` is what `writev`
has appended, 0 if it failed. -/
structure Call where
  sql : Bytes
  now : Nat
  listed : Bool
  opened : Bool
  written : Nat
  synced : Bool

structure Log where
  directory : Directory
  logger : Logger
  accepted : Nat → List Bytes

def Log.empty : Log := ⟨.empty,.start,fun _ => []⟩

def Log.Rotates : Prop :=
  ∀ file ∈ log.logger.fd, needRotate config log.directory file
deriving Decidable

def Logger.SyncDue : Prop :=
  0 < config.lines ∧ config.lines ≤ logger.numLines+1
deriving Decidable

def Logger.count : Logger :=
  if logger.SyncDue config then {logger with numLines := 0}
  else if 0 < config.lines then {logger with numLines := logger.numLines+1}
  else logger

def Log.prepare : Log :=
  if log.Rotates config then
    let (directory,logger) := rotateLog log.directory log.logger call.now call.listed call.opened
    {log with directory := directory, logger := logger}
  else log

def Log.writev (file : Nat) (call : Call) : Log × Bool :=
  let directory := log.directory.append file ((encode call.sql).take call.written)
  if (call.written : Int) ≠ (Int32.ofNat (4+call.sql.length)).toInt then
    ({log with directory := directory},false)
  else if log.logger.SyncDue config ∧ call.synced = false then
    ({log with directory := directory, logger := log.logger.count config},false)
  else
    (⟨directory,log.logger.count config,
      Function.update log.accepted file (log.accepted file ++ [call.sql])⟩,true)

def writeLog : Log × Bool :=
  let log := log.prepare config call
  match log.logger.fd with
  | none => (log,false)
  | some file => log.writev config file call

inductive LogAction where
  | write (call : Call)
  | restart

def logStep : LogAction → Log × Bool
  | .write call => writeLog config log call
  | .restart => ({log with logger := .start},false)

def Call.Complete : Prop :=
  call.written = 4+call.sql.length ∧ 4+call.sql.length < 2^31 ∧
    (log.logger.SyncDue config → call.synced = true)
deriving Decidable

end

variable {log : Log}

theorem Call.Complete.take {cfg : LogConfig} {call : Call} (whole : call.Complete cfg log) :
    (encode call.sql).take call.written = encode call.sql := by
  rw [whole.1]
  exact take_of_length_le (length_encode _).le

def Call.NoFile (config : LogConfig) (log : Log) (call : Call) : Prop :=
  log.Rotates config ∧ ¬ (call.listed = true ∧ call.opened = true)
deriving Decidable

def Clean (config : LogConfig) (log : Log) : LogAction → Prop
  | .write call => call.NoFile config log ∨ call.written = 0 ∨ call.Complete config log
  | .restart => True

instance (config : LogConfig) (log : Log) : DecidablePred (Clean config log)
  | .write _ => inferInstanceAs (Decidable (_ ∨ _ ∨ _))
  | .restart => isTrue trivial

def Framed (log : Log) : Prop := ∀ file, parse (log.directory.bytes file) = some (log.accepted file)

section
variable (cfg : LogConfig) (log : Log) (call : Call) {dir : Directory}

@[simp] theorem openAppend_bytes {name : Filename} : (dir.openAppend name).1.bytes = dir.bytes := by
  unfold Directory.openAppend
  split <;> rfl

variable {logger : Logger} {now : Nat}

@[simp] theorem nextFilepath_fd : (logger.nextFilepath dir now).1.fd = logger.fd := by
  unfold Logger.nextFilepath
  split <;> rfl

@[simp] theorem nextFilepath_numLines :
    (logger.nextFilepath dir now).1.numLines = logger.numLines := by
  unfold Logger.nextFilepath
  split <;> rfl

variable {now : Nat} {listed opened : Bool}

theorem rotateLog_bytes : (rotateLog dir logger now listed opened).1.bytes = dir.bytes := by
  cases listed <;> cases opened <;> simp [rotateLog]

theorem rotateLog_numLines : (rotateLog dir logger now listed opened).2.numLines = logger.numLines := by
  cases listed <;> cases opened <;> simp [rotateLog,Logger.opening]

theorem rotateLog_fd :
    (rotateLog dir logger now listed opened).2.fd = none ↔ ¬ (listed = true ∧ opened = true) := by
  cases listed <;> cases opened <;> simp [rotateLog,Logger.opening]

theorem prepare_bytes : (log.prepare cfg call).directory.bytes = log.directory.bytes := by
  unfold Log.prepare
  split
  · exact rotateLog_bytes
  · rfl

theorem prepare_accepted : (log.prepare cfg call).accepted = log.accepted := by
  unfold Log.prepare
  split <;> rfl

theorem prepare_syncDue : (log.prepare cfg call).logger.SyncDue cfg ↔ log.logger.SyncDue cfg := by
  have same : (log.prepare cfg call).logger.numLines = log.logger.numLines := by
    unfold Log.prepare
    split
    · exact rotateLog_numLines
    · rfl
  unfold Logger.SyncDue
  rw [same]

theorem prepare_fd : (log.prepare cfg call).logger.fd = none ↔ call.NoFile cfg log := by
  unfold Log.prepare
  split_ifs with rotates
  · exact rotateLog_fd.trans (and_iff_right rotates).symm
  · constructor
    · intro closed
      refine absurd ?_ rotates
      intro file mem
      rw [closed] at mem
      cases mem
    · intro both
      exact absurd both.1 rotates

theorem written_eq_iff {size written : Nat} (short : size < 2^32) (bound : written ≤ size) :
    (written : Int) = (Int32.ofNat size).toInt ↔ written = size ∧ size < 2^31 := by
  rw [Int32.toInt_ofNat']
  simp only [Int32.size]
  rw [Int.bmod_def]
  omega

variable (file : Nat)

theorem writev_directory : (log.writev cfg file call).1.directory =
    log.directory.append file ((encode call.sql).take call.written) := by
  unfold Log.writev
  split_ifs <;> rfl

theorem writev_accepted (short : call.sql.length < 2^31) (bound : call.written ≤ 4+call.sql.length) :
    (log.writev cfg file call).1.accepted =
      if call.Complete cfg log then update log.accepted file (log.accepted file ++ [call.sql])
      else log.accepted := by
  have length := written_eq_iff (by omega) bound
  by_cases whole : call.Complete cfg log
  · rw [if_pos whole]
    obtain ⟨all,small,sync⟩ := whole
    have synced : ¬ (log.logger.SyncDue cfg ∧ call.synced = false) := by
      rintro ⟨due,failed⟩
      exact Bool.false_ne_true (failed.symm.trans (sync due))
    unfold Log.writev
    rw [if_neg (not_not.mpr (length.mpr ⟨all,small⟩)),if_neg synced]
  · rw [if_neg whole]
    unfold Log.writev
    split_ifs with ne unsynced
    · rfl
    · rfl
    · obtain ⟨all,small⟩ := length.mp (not_not.mp ne)
      refine absurd ⟨all,small,?_⟩ whole
      intro due
      rw [← Bool.not_eq_false]
      intro failed
      exact unsynced ⟨due,failed⟩

theorem writeLog_cases (short : call.sql.length < 2^31) (bound : call.written ≤ 4+call.sql.length) :
    (call.NoFile cfg log ∧ (writeLog cfg log call).1.directory.bytes = log.directory.bytes ∧
      (writeLog cfg log call).1.accepted = log.accepted) ∨
    ¬ call.NoFile cfg log ∧ ∃ file, (writeLog cfg log call).1.directory.bytes =
      update log.directory.bytes file
        (log.directory.bytes file ++ (encode call.sql).take call.written) ∧
          (writeLog cfg log call).1.accepted =
        if call.Complete cfg log then update log.accepted file (log.accepted file ++ [call.sql])
        else log.accepted := by
  cases fd : (log.prepare cfg call).logger.fd with
  | none =>
    simp only [writeLog,fd]
    exact .inl ⟨(prepare_fd cfg log call).mp fd,prepare_bytes cfg log call,prepare_accepted cfg log call⟩
  | some file =>
    have whole : call.Complete cfg (log.prepare cfg call) ↔ call.Complete cfg log := by
      unfold Call.Complete
      rw [prepare_syncDue]
    have opened : ¬ call.NoFile cfg log := by
      rw [← prepare_fd,fd]
      exact some_ne_none file
    refine .inr ⟨opened,file,?_⟩
    simp only [writeLog,fd,writev_directory,Directory.append,
      writev_accepted cfg _ call file short bound,whole,
      prepare_bytes,prepare_accepted,and_self]

end

def Call.Sized (call : Call) : Prop := call.sql.length < 2^31 ∧ call.written ≤ 4+call.sql.length

def LogAction.Sized : LogAction → Prop
  | .write call => call.Sized
  | .restart => True

instance : DecidablePred LogAction.Sized
  | .write _ => inferInstanceAs (Decidable (_ ∧ _))
  | .restart => isTrue trivial

structure Appends (before after : Log) (file : Nat) (data : Bytes) (sqls : List Bytes) : Prop where
  bytes : after.directory.bytes =
    Function.update before.directory.bytes file (before.directory.bytes file ++ data)
  accepted : after.accepted = Function.update before.accepted file (before.accepted file ++ sqls)

structure Log.Intact (log : Log) : Prop where
  frames : ∀ file, log.directory.bytes file = encodeAll (log.accepted file)
  short : ∀ file, ∀ sql ∈ log.accepted file, sql.length < 2^31

def Log.surplus (log : Log) (file : Nat) : Int :=
  (log.directory.bytes file).length - (encodeAll (log.accepted file)).length

theorem Log.Intact.framed (intact : log.Intact) : Framed log := by
  intro file
  rw [intact.frames]
  exact parse_encodeAll _ (intact.short file)

theorem Framed.surplus (framed : Framed log) (file : Nat) : log.surplus file ≤ 0 := by
  have fits := parseUpTo_length _ _ _ (framed file)
  unfold Log.surplus
  omega

section
variable {before after : Log} {target : Nat} {data : Bytes} {sqls : List Bytes}

theorem Appends.surplus (appends : Appends before after target data sqls) (file : Nat) :
    after.surplus file = before.surplus file + if file = target then
      (data.length : Int) - (encodeAll sqls).length else 0 := by
  unfold Log.surplus
  rw [appends.bytes,appends.accepted]
  simp only [update_apply]
  split_ifs with same
  · rw [same,encodeAll_append,length_append,length_append]
    push_cast
    ring
  · ring

theorem Appends.intact (appends : Appends before after target (encodeAll sqls) sqls)
    (short : ∀ sql ∈ sqls, sql.length < 2^31) (intact : before.Intact) : after.Intact := by
  constructor
  · intro file
    rw [appends.bytes,appends.accepted]
    simp only [update_apply]
    split
    · rw [encodeAll_append,intact.frames]
    · exact intact.frames file
  · intro file sql
    rw [appends.accepted]
    simp only [update_apply]
    split
    · rw [mem_append]
      rintro (old | new)
      · exact intact.short target sql old
      · exact short sql new
    · exact intact.short file sql

end

section
variable (config : LogConfig) (log : Log) (action : LogAction)

theorem logStep_appends (sized : action.Sized) :
    ∃ file data sqls, Appends log (logStep config log action).1 file data sqls ∧
      (∀ sql ∈ sqls, sql.length < 2^31) ∧
      (Clean config log action ∧ data = encodeAll sqls ∨ ¬ Clean config log action ∧ sqls = [] ∧
        data ≠ []) := by
  cases action with
  | restart => exact ⟨0,[],[],⟨by simp [logStep],by simp [logStep]⟩,by simp,.inl ⟨trivial,rfl⟩⟩
  | write call =>
    rcases writeLog_cases config log call sized.1 sized.2 with
      ⟨none,bytes,accepted⟩ | ⟨some,file,bytes,accepted⟩
    · exact ⟨0,[],[],⟨by simp [logStep,bytes],by simp [logStep,accepted]⟩,by simp,.inl ⟨.inl none,rfl⟩⟩
    · by_cases complete : call.Complete config log
      · rw [complete.take] at bytes
        rw [if_pos complete] at accepted
        refine ⟨file,encode call.sql,[call.sql],⟨bytes,accepted⟩,?_,.inl ⟨.inr (.inr complete),by simp⟩⟩
        simpa using sized.1
      · rw [if_neg complete] at accepted
        refine ⟨file,_,[],⟨bytes,by simp [logStep,accepted]⟩,by simp,?_⟩
        rcases Nat.eq_zero_or_pos call.written with zero | pos
        · exact .inl ⟨.inr (.inl zero),by simp [zero]⟩
        · refine .inr ⟨?_,rfl,?_⟩
          · rintro (missing | nothing | whole)
            · exact some missing
            · omega
            · exact complete whole
          · intro empty
            rw [take_eq_nil_iff] at empty
            rcases empty with nothing | empty
            · omega
            · exact encode_ne_nil call.sql empty

theorem logStep_intact (intact : log.Intact)
    (allowed : action.Sized ∧ Clean config log action) : (logStep config log action).1.Intact := by
  obtain ⟨file,data,sqls,appends,short,⟨_,rfl⟩ | ⟨dirty,_⟩⟩ := logStep_appends config log action allowed.1
  · exact appends.intact short intact
  · exact absurd allowed.2 dirty

theorem logStep_surplus (sized : action.Sized) (file : Nat) :
    log.surplus file ≤ (logStep config log action).1.surplus file := by
  obtain ⟨target,data,sqls,appends,_,⟨_,rfl⟩ | ⟨_,rfl,_⟩⟩ := logStep_appends config log action sized
  · rw [appends.surplus]
    split <;> omega
  · rw [appends.surplus]
    split
    · simp
    · omega

theorem logStep_dirty (sized : action.Sized) (dirty : ¬ Clean config log action) :
    ∃ file, log.surplus file < (logStep config log action).1.surplus file := by
  obtain ⟨target,data,sqls,appends,_,⟨clean,_⟩ | ⟨_,rfl,some⟩⟩ := logStep_appends config log action sized
  · exact absurd clean dirty
  · refine ⟨target,?_⟩
    have pos := length_pos_of_ne_nil some
    rw [appends.surplus,encodeAll_nil,length_nil]
    omega

theorem final_surplus (acts : List LogAction) (sized : ∀ action ∈ acts, action.Sized) (file : Nat) :
    log.surplus file ≤ (final (logStep config) log acts).surplus file := by
  induction acts generalizing log with
  | nil => exact le_rfl
  | cons action rest ih =>
    obtain ⟨first,later⟩ := List.forall_mem_cons.mp sized
    exact (logStep_surplus config log action first file).trans (ih _ later)

theorem clean_of_framed {acts : List LogAction} (sized : ∀ action ∈ acts, action.Sized)
    (covered : ∀ file, 0 ≤ log.surplus file) (framed : Framed (final (logStep config) log acts)) :
    Run.Meets (Clean config) (logStep config) log acts := by
  induction acts generalizing log with
  | nil => trivial
  | cons action rest ih =>
    obtain ⟨first,later⟩ := List.forall_mem_cons.mp sized
    have next (file : Nat) : 0 ≤ (logStep config log action).1.surplus file :=
      (covered file).trans (logStep_surplus config log action first file)
    refine ⟨?_,ih _ later next framed⟩
    by_contra dirty
    obtain ⟨file,more⟩ := logStep_dirty config log action first dirty
    have kept := final_surplus config (logStep config log action).1 rest later file
    have none := framed.surplus file
    have start := covered file
    rw [final_cons] at none
    omega

/-- The files of a log can be read back as the accepted statements exactly if every write
was complete or left nothing behind. -/
theorem log_framed_iff (actions : List LogAction) (sized : ∀ action ∈ actions, action.Sized) :
    Framed (final (logStep config) Log.empty actions) ↔
      Run.Meets (Clean config) (logStep config) Log.empty actions := by
  constructor
  · exact clean_of_framed config Log.empty sized (fun _ => le_rfl)
  · intro clean
    have allowed := meets_and LogAction.Sized Log.empty actions sized clean
    have start : Log.empty.Intact := ⟨fun _ => rfl,by simp [Log.empty]⟩
    exact (invariant Log.Intact (logStep_intact config) Log.empty actions start allowed).framed

end

def sampleLogConfig : LogConfig := ⟨10240,2⟩

def sampleWrites : List LogAction :=
  [.write ⟨[97],5,true,true,5,true⟩,.write ⟨[98,98],5,true,true,0,true⟩,.restart,
    .write ⟨[99],6,true,true,5,true⟩]

theorem log_framed_restart :
    (final (logStep sampleLogConfig) Log.empty sampleWrites).accepted 0 = [[97],[99]] ∧
      Framed (final (logStep sampleLogConfig) Log.empty sampleWrites) :=
  ⟨by decide +kernel,(log_framed_iff sampleLogConfig sampleWrites (by decide)).mpr (by decide +kernel)⟩

theorem log_not_framed : ¬ Framed (final (logStep sampleLogConfig) Log.empty
    [.write ⟨[97,97,97,97,97],5,true,true,4,true⟩,.write ⟨[98],5,true,true,5,true⟩]) := by
  intro framed
  have read := framed 0
  revert read
  decide +kernel

end Mooon.DbProxy

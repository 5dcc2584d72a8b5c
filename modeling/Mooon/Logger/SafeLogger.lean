import Mooon.Backups
import Mooon.Run

/-! The files of a `CSafeLogger` that a single thread writes to in an empty directory. The calls
succeed; a `rename` of a file that is not there is not made. -/
namespace Mooon.SafeLogger
open Backups List Option Function

abbrev Line := List UInt8

structure Config where
  filesize : UInt32
  backupNumber : UInt16
  numbered : 0 < backupNumber

section
variable (config : Config) (state : State) (line : Line)

def Config.maxBytes : Int :=
  (if config.filesize < 2560 then 2560 else config.filesize).toInt32.toInt

/-- The lines given to `write_log` and the calls of `rotate_log` are counted along. -/
structure State where
  disk : Files
  fd : Nat
  lines : List Line
  rotations : Nat

def State.constructed : State :=
  let (disk,file) := Disk.empty.openOrCreate 0
  ⟨disk,file,[],0⟩

def needRotate (disk : Files) (fd : Nat) : Bool := config.maxBytes < disk.size fd

def renameThere (old new : Nat) (disk : Files) : Files :=
  if (disk.lookup old).isSome then disk.rename old new else disk

def rotateHistory : Nat → Files → Files
  | 0, disk | 1, disk => disk
  | i+2, disk => rotateHistory (i+1) (renameThere (i+1) (i+2) disk)

def rotateLog (disk : Files) : Files :=
  let history := rotateHistory (config.backupNumber.toNat - 1) disk
  if 0 < config.backupNumber then renameThere 0 1 history else history

def reopenLog : State :=
  let (disk,newLogFd) := state.disk.openOrCreate 0
  if needRotate config disk newLogFd then
    {state with disk := rotateLog config disk, fd := newLogFd, rotations := state.rotations + 1}
  else {state with disk, fd := newLogFd}

def writeLog (state : State) : State :=
  let disk := (state.disk.write line ⟨state.fd,none⟩).1
  let state := {state with disk, lines := state.lines ++ [line]}
  if line.length = 0 then state
  else if needRotate config disk state.fd then reopenLog config state
  else state

def step : State × Unit := (writeLog config line state,())

/-- The configured number of backups and the file behind them are the last lines, and the backups
are as many as configured as soon as there were so many rotations. -/
structure Keeps (config : Config) (state : State) : Prop where
  lines : ∃ lost, text config.backupNumber.toNat state.disk = (state.lines.drop lost).flatten
  backups : (numbers state.disk).ncard = min state.rotations config.backupNumber.toNat

/-- The line fills the file up, and that file is the one with the name of the log, or the limit is
negative. -/
def Rotates : Prop :=
  line ≠ [] ∧ config.maxBytes < state.disk.size state.fd + line.length ∧
    (state.disk.lookup 0 = some state.fd ∨ config.maxBytes < 0)
deriving Decidable

def Sparing : Prop :=
  config.backupNumber = 1 ∨ state.rotations + 1 < config.backupNumber.toNat ∨ ¬Rotates config state line
deriving Decidable

def Config.kept : Nat := max (config.backupNumber.toNat - 1) 1

end

variable {disk : Files}

theorem renameThere_eq {old new : Nat} : renameThere old new disk = disk.rename old new := by
  unfold renameThere
  split_ifs with there
  · rfl
  · rw [Disk.rename_missing (Disk.free_iff.mpr (by simpa using there))]

theorem rotateHistory_shift {i : Nat} : (rotateHistory (i+1) disk).rename 0 1 = shift (i+1) disk := by
  induction i generalizing disk with
  | zero => rfl
  | succ i ih =>
    rw [rotateHistory,renameThere_eq,ih]
    rfl

theorem rotateLog_eq {cfg : Config} : rotateLog cfg disk = shift cfg.kept disk := by
  unfold rotateLog Config.kept
  rw [if_pos cfg.numbered,renameThere_eq]
  cases small : cfg.backupNumber.toNat - 1 with
  | zero => rfl
  | succ i => rw [rotateHistory_shift,Nat.max_eq_left (Nat.succ_pos i)]

/-- The file that is written to is the current one, or it became the youngest backup when it was
full and there is no current one. -/
def Placed (config : Config) (state : State) (current : Option Nat) (backups : List Nat) : Prop :=
  current = some state.fd ∨
    current = none ∧ backups.head? = some state.fd ∧ config.maxBytes < state.disk.size state.fd

structure Sound (config : Config) (state : State) (current : Option Nat) (backups : List Nat) : Prop where
  numbered : Numbered state.disk current backups
  logged : Logged state.disk (backups.reverse ++ current.toList) state.lines
  placed : Placed config state current backups
  counted : backups.length = min state.rotations config.kept

section
variable {config : Config} {state : State} {current : Option Nat} {backups : List Nat}

theorem constructed_sound : Sound config .constructed (some 0) [] := by
  have none : Numbered Disk.empty none [] := ⟨Disk.distinct_empty,rfl,fun _ => rfl⟩
  have created : Numbered (Disk.create 0 Disk.empty) (some 0) [] := none.create rfl
  refine ⟨created,?_,Or.inl rfl,by simp [State.constructed]⟩
  exact logged_nil.snoc not_mem_nil rfl

namespace Sound
variable (sound : Sound config state current backups)
include sound

theorem files : ∃ older, backups.reverse ++ current.toList = older ++ [state.fd] ∧ state.fd ∉ older := by
  rcases sound.placed with written | ⟨none,first,-⟩
  · refine ⟨backups.reverse,by rw [written]; rfl,?_⟩
    rw [mem_reverse]
    exact sound.numbered.current_not_backup written
  · obtain ⟨rest,rfl⟩ := head?_eq_some_iff.mp first
    refine ⟨rest.reverse,by simp [none],?_⟩
    rw [mem_reverse]
    exact (nodup_cons.mp sound.numbered.nodup).1

theorem fits : backups.length ≤ config.kept := sound.counted.trans_le (Nat.min_le_right _ _)

variable (line : Line)

theorem write : Sound config {state with
    disk := (state.disk.write line ⟨state.fd,none⟩).1
    lines := state.lines ++ [line]} current backups := by
  have atEnd : state.disk.AtEnd ⟨state.fd,none⟩ := fun _ there => absurd there (by simp)
  have written := Disk.write_bytes line atEnd
  obtain ⟨older,split,last⟩ := sound.files
  refine ⟨sound.numbered.write line _,?_,?_,sound.counted⟩
  · have logged := sound.logged
    rw [split] at logged ⊢
    exact logged.write last (by rw [written]; simp)
  · refine sound.placed.imp_right fun ⟨missing,first,full⟩ => ⟨missing,first,?_⟩
    change config.maxBytes < (((state.disk.write line ⟨state.fd,none⟩).1.bytes state.fd).length : Int)
    rw [written,update_self,length_append]
    exact lt_add_of_lt_of_nonneg full (Int.natCast_nonneg _)

theorem rotate (written : current = some state.fd) (full : needRotate config state.disk state.fd) :
    Sound config {state with disk := rotateLog config state.disk, rotations := state.rotations + 1}
      none ((state.fd::backups).take config.kept) := by
  have pos : 0 < config.kept := Nat.lt_of_lt_of_le Nat.one_pos (Nat.le_max_right _ _)
  obtain ⟨numbered,bytes,-⟩ := sound.numbered.shift written pos sound.fits
  rw [rotateLog_eq]
  refine ⟨numbered,?_,Or.inr ⟨rfl,?_,?_⟩,?_⟩
  · rw [toList_none,append_nil]
    exact sound.logged.shift sound.numbered written pos sound.fits
  · obtain ⟨rest,kept⟩ := Nat.exists_eq_succ_of_ne_zero (Nat.ne_of_gt pos)
    rw [kept,take_succ_cons,head?_cons]
  · change config.maxBytes < (((shift config.kept state.disk).bytes state.fd).length : Int)
    rw [bytes]
    exact of_decide_eq_true full
  · rw [length_take,length_cons,sound.counted]
    change _ = min (state.rotations + 1) config.kept
    omega

theorem reopen (missing : current = none) :
    Sound config {state with disk := state.disk.create 0, fd := state.disk.next}
      (some state.disk.next) backups := by
  refine ⟨sound.numbered.create missing,?_,Or.inl rfl,sound.counted⟩
  have logged := sound.logged
  rw [missing,toList_none,append_nil] at logged
  exact logged.create sound.numbered

theorem reopenLog (filled : needRotate config state.disk state.fd) :
    (∃ current' backups', Sound config (reopenLog config state) current' backups') ∧
      (SafeLogger.reopenLog config state).rotations =
        state.rotations + if current = some state.fd ∨ config.maxBytes < 0 then 1 else 0 := by
  rw [SafeLogger.reopenLog,Disk.openOrCreate,sound.numbered.current]
  rcases sound.placed with same | ⟨missing,-⟩
  · rw [same]
    dsimp only
    rw [if_pos filled,if_pos (Or.inl rfl)]
    exact ⟨⟨_,_,sound.rotate same filled⟩,rfl⟩
  · rw [missing]
    dsimp only
    have reopened := sound.reopen missing
    have empty : needRotate config (state.disk.create 0) state.disk.next ↔ config.maxBytes < 0 := by
      have bytes : (state.disk.create 0).bytes state.disk.next = [] := update_self _ _ _
      rw [needRotate,decide_eq_true_iff,Disk.size,bytes]
      rfl
    by_cases neg : config.maxBytes < 0
    · rw [if_pos (empty.mpr neg),if_pos (Or.inr neg)]
      exact ⟨⟨_,_,reopened.rotate rfl (empty.mpr neg)⟩,rfl⟩
    · rw [if_neg (mt empty.mp neg),if_neg (by simp [neg])]
      exact ⟨⟨_,_,reopened⟩,rfl⟩

theorem writeLog : (∃ current' backups', Sound config (writeLog config line state) current' backups') ∧
    (SafeLogger.writeLog config line state).rotations =
      state.rotations + if Rotates config state line then 1 else 0 := by
  have written := sound.write line
  have full : needRotate config (state.disk.write line ⟨state.fd,none⟩).1 state.fd ↔
      config.maxBytes < state.disk.size state.fd + line.length := by
    rw [needRotate,decide_eq_true_iff,Disk.size,Disk.write_bytes line fun _ there => absurd there (by simp),
      update_self,length_append,Nat.cast_add]
    rfl
  unfold SafeLogger.writeLog
  by_cases empty : line = []
  · rw [if_pos (by rw [empty]; rfl),if_neg fun rotates => rotates.1 empty]
    exact ⟨⟨_,_,written⟩,rfl⟩
  rw [if_neg (mt length_eq_zero_iff.mp empty)]
  by_cases filled : needRotate config (state.disk.write line ⟨state.fd,none⟩).1 state.fd
  · rw [if_pos filled]
    have rotates : Rotates config state line ↔ current = some state.fd ∨ config.maxBytes < 0 := by
      rw [Rotates,sound.numbered.current]
      exact ⟨fun rotates => rotates.2.2,fun cause => ⟨empty,full.mp filled,cause⟩⟩
    rw [if_congr rotates rfl rfl]
    exact written.reopenLog filled
  · rw [if_neg filled,if_neg fun rotates => filled (full.mpr rotates.2.1)]
    exact ⟨⟨_,_,written⟩,rfl⟩

/-- The files that there are hold the last lines; they are too few once as many rotations were made
as backups are to be kept. -/
theorem keeps_iff_rotations : Keeps config state ↔
    config.backupNumber = 1 ∨ state.rotations < config.backupNumber.toNat := by
  have one : config.backupNumber = 1 ↔ config.backupNumber.toNat = 1 := by
    rw [← UInt16.toNat_inj]
    rfl
  have pos := UInt16.lt_iff_toNat_lt.mp config.numbered
  have count :=
    sound.numbered.card_numbers.trans sound.counted
  rw [one]
  unfold Config.kept at count
  constructor
  · intro keeps
    have promised := keeps.backups
    omega
  · intro few
    refine ⟨?_,by omega⟩
    rw [sound.numbered.text_eq (sound.fits.trans (by unfold Config.kept; omega))]
    exact sound.logged.text

end Sound

def Keeping (config : Config) (state : State) : Prop :=
  (∃ current backups, Sound config state current backups) ∧
    (config.backupNumber = 1 ∨ state.rotations < config.backupNumber.toNat)

theorem constructed_keeping : Keeping config .constructed :=
  ⟨⟨_,_,constructed_sound⟩,Or.inr (UInt16.lt_iff_toNat_lt.mp config.numbered)⟩

theorem Keeping.step (keeping : Keeping config state) (line : Line) :
    (Keeps config (step config state line).1 ↔ Keeping config (SafeLogger.step config state line).1) ∧
      (Keeps config (SafeLogger.step config state line).1 ↔ Sparing config state line) := by
  obtain ⟨⟨current,backups,sound⟩,few⟩ := keeping
  obtain ⟨⟨_,_,after⟩,rotations⟩ := sound.writeLog line
  refine ⟨after.keeps_iff_rotations.trans ⟨fun few => ⟨⟨_,_,after⟩,few⟩,And.right⟩,?_⟩
  rw [SafeLogger.step,after.keeps_iff_rotations,rotations,Sparing]
  by_cases rotates : Rotates config state line
  · simp [rotates]
  · simp [rotates,few]

end

theorem history_kept_iff (config : Config) (lines : List Line) :
    Run.Meets (fun state line => Keeps config (step config state line).1) (step config) .constructed lines ↔
      Run.Meets (Sparing config) (step config) .constructed lines := by
  refine Run.meets_congr (Keeping config) .constructed lines ?_ ?_ constructed_keeping
  · intro state line _ keeping keeps
    exact (keeping.step line).1.mp keeps
  · intro state line _ keeping
    exact (keeping.step line).2

theorem history_of_one_backup : ¬Run.Meets
    (fun state line => Keeps ⟨2560,2,by decide⟩ (step ⟨2560,2,by decide⟩ state line).1)
    (step ⟨2560,2,by decide⟩) .constructed [replicate 2561 46,[46],replicate 2561 46] := by
  rintro ⟨first,second,third,-⟩
  have keeping := (constructed_keeping.step _).1.mp first
  replace keeping := (keeping.step _).1.mp second
  have sparing := (keeping.step _).2.mp third
  revert sparing
  decide +kernel

end Mooon.SafeLogger

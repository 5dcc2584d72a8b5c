import Mooon.Backups
import Mooon.Run

/-! The files of a `CLogger` that starts in a directory without them. The calls succeed, but for a
`rename` of a file that is not there. -/
namespace Mooon.Logger.RotateFile
open Backups List Function

abbrev Record := List UInt8

structure Config where
  filesize : UInt32
  backupNumber : UInt16
  limited : filesize.toNat ≤ 2147483648

section
variable (config : Config) (state : State)

def Config.maxBytes : UInt32 := if config.filesize < 2560 then 2560 else config.filesize

/-- What one call takes from the queue: at most `LOG_NUMBER_WRITED_ONCE` records with lengths of 16
bits, of which zero is not that of a record. -/
structure Batch where
  records : List Record
  few : records.length ≤ 10
  sized : ∀ record ∈ records, 0 < record.length ∧ record.length < 65536

/-- The records that are written and the calls of `rotate_file` are counted along. -/
structure State where
  disk : Files
  fd : Descriptor
  currentBytes : UInt32
  written : List Record
  rotations : Nat

def createLogfile (truncate : Bool) (state : State) : State :=
  let (disk,file) := state.disk.openOrCreate 0
  let disk := if truncate then disk.truncate file else disk
  {state with disk, fd := ⟨file,if truncate then some 0 else none⟩, currentBytes := .ofNat (disk.size file)}

def State.created : State := createLogfile false ⟨.empty,⟨0,none⟩,0,[],0⟩

def needCreateFile : Bool := (state.disk.link state.fd.file).isNone

def needRotateFile : Bool := config.maxBytes < state.currentBytes

def rotateFile : State :=
  createLogfile (config.backupNumber = 0)
    {state with disk := shift config.backupNumber.toNat state.disk, rotations := state.rotations + 1}

def prewrite : State :=
  if needCreateFile state then createLogfile false state
  else if needRotateFile config state then rotateFile config state
  else state

def batchWrite (batch : Batch) (state : State) : State :=
  let (disk,fd) := state.disk.write batch.records.flatten state.fd
  {state with
    disk, fd
    currentBytes := state.currentBytes + .ofNat batch.records.flatten.length
    written := state.written ++ batch.records}

def execute (batch : Batch) : State × Unit :=
  (batchWrite batch (prewrite config state),())

end

/-- The files from the oldest backup on are the last bytes, and all of them until a rotation has no
number left for a backup; there are as many backups as configured as soon as there were so many
rotations. -/
structure Keeps (config : Config) (state : State) : Prop where
  bytes : text config.backupNumber.toNat state.disk <:+ state.written.flatten
  whole : state.rotations ≤ config.backupNumber.toNat →
    text config.backupNumber.toNat state.disk = state.written.flatten
  backups : (numbers state.disk).ncard = min state.rotations config.backupNumber.toNat

structure Sound (config : Config) (state : State) (backups : List Nat) : Prop where
  numbered : Numbered state.disk (some state.fd.file) backups
  logged : Logged state.disk (backups.reverse ++ [state.fd.file]) state.written
  atEnd : state.disk.AtEnd state.fd
  counter : state.currentBytes.toNat = state.disk.size state.fd.file
  counted : backups.length = min state.rotations config.backupNumber.toNat
  whole : state.rotations ≤ config.backupNumber.toNat →
    (backups.reverse ++ [state.fd.file]).flatMap state.disk.bytes = state.written.flatten

theorem maxBytes_le (cfg : Config) : cfg.maxBytes.toNat ≤ 2147483648 := by
  unfold Config.maxBytes
  split_ifs
  · decide
  · exact cfg.limited

theorem Batch.length_le (batch : Batch) : batch.records.flatten.length ≤ 655350 := by
  have each : ∀ records : List Record, (∀ record ∈ records, 0 < record.length ∧ record.length < 65536) →
      records.flatten.length ≤ 65535 * records.length := by
    intro records sized
    induction records with
    | nil => exact Nat.le_refl 0
    | cons record rest ih =>
      rw [forall_mem_cons] at sized
      have later := ih sized.2
      rw [flatten_cons,length_append,length_cons]
      omega
  have few := batch.few
  have all := each batch.records batch.sized
  omega

section
variable {cfg : Config} {state : State} {backups : List Nat}

theorem created_sound : Sound cfg .created [] := by
  have none : Numbered Disk.empty none [] := ⟨Disk.distinct_empty,rfl,fun _ => rfl⟩
  refine ⟨none.create rfl,logged_nil.snoc not_mem_nil rfl,?_,rfl,
    by simp [State.created,createLogfile],fun _ => rfl⟩
  exact fun _ there => absurd there (by simp [State.created,createLogfile])

namespace Sound
variable (sound : Sound cfg state backups)
include sound

theorem keeps : Keeps cfg state := by
  have fits := sound.counted.trans_le (Nat.min_le_right _ _)
  refine ⟨?_,?_,sound.numbered.card_numbers.trans sound.counted⟩ <;> rw [sound.numbered.text_eq fits]
  rotate_left
  · exact sound.whole
  obtain ⟨lost,last⟩ := sound.logged.text
  exact last ▸ ⟨(state.written.take lost).flatten,by rw [← flatten_append,take_append_drop]⟩

theorem linked : needCreateFile state = false := by
  have named := (Disk.lookup_eq_some sound.numbered.distinct).mp sound.numbered.current
  rw [needCreateFile,named.2]
  rfl

theorem rotateFile : (∃ backups, Sound cfg (rotateFile cfg state) backups) ∧
    (RotateFile.rotateFile cfg state).currentBytes = 0 := by
  have named := sound.numbered.current
  have counted := sound.counted
  unfold RotateFile.rotateFile createLogfile
  by_cases none : cfg.backupNumber = 0
  · have zero : cfg.backupNumber.toNat = 0 := congrArg UInt16.toNat none
    rw [zero,Nat.min_zero,length_eq_zero_iff] at counted
    subst counted
    have empty : (state.disk.truncate state.fd.file).bytes state.fd.file = [] := update_self _ _ _
    rw [zero,decide_eq_true none,shift,Disk.openOrCreate,named]
    dsimp only
    rw [if_pos rfl,Disk.size,empty]
    refine ⟨⟨[],⟨sound.numbered.distinct,named,sound.numbered.backups⟩,
      logged_nil.snoc not_mem_nil empty,?_,?_,?_,?_⟩,rfl⟩
    · rintro position ⟨⟩
      rw [Disk.size,empty]
      rfl
    · rw [Disk.size,empty]
      rfl
    · rw [zero]
      rfl
    · exact fun few => absurd few (by rw [zero]; exact Nat.not_succ_le_zero _)
  · have pos :=
      Nat.pos_of_ne_zero fun zero => none (UInt16.toNat_inj.mp zero)
    have fits := counted.trans_le (Nat.min_le_right _ _)
    obtain ⟨shifted,bytes,-⟩ := sound.numbered.shift rfl pos fits
    have empty : ((shift cfg.backupNumber.toNat state.disk).create 0).bytes
        (shift cfg.backupNumber.toNat state.disk).next = [] := update_self _ _ _
    rw [decide_eq_false none,Disk.openOrCreate,shifted.current]
    dsimp only
    rw [if_neg Bool.false_ne_true,Disk.size,empty]
    refine ⟨⟨_,shifted.create rfl,(sound.logged.shift sound.numbered rfl pos fits).create shifted,
      ?_,?_,?_,?_⟩,rfl⟩
    · exact fun _ there => absurd there (by simp)
    · rw [Disk.size,empty]
      rfl
    · rw [length_take,length_cons]
      change _ = min (state.rotations + 1) _
      omega
    · intro (few : state.rotations + 1 ≤ _)
      rw [shifted.flatMap_create,bytes,take_of_length_le (by rw [length_cons]; omega),reverse_cons]
      exact sound.whole (Nat.le_of_succ_le few)

theorem batchWrite (batch : Batch) (few : state.currentBytes ≤ cfg.maxBytes) :
    Sound cfg (batchWrite batch state) backups := by
  obtain ⟨same,atEnd⟩ := sound.atEnd.write batch.records.flatten
  have bytes := Disk.write_bytes batch.records.flatten sound.atEnd
  have last : state.fd.file ∉ backups.reverse := by
    rw [mem_reverse]
    exact sound.numbered.current_not_backup rfl
  unfold RotateFile.batchWrite
  refine ⟨?_,?_,atEnd,?_,sound.counted,?_⟩
  · dsimp only
    rw [same]
    exact sound.numbered.write _ _
  · dsimp only
    rw [same]
    exact sound.logged.write last bytes
  · dsimp only
    rw [same,Disk.size,bytes,update_self,length_append,UInt32.toNat_add,sound.counter,
      UInt32.toNat_ofNat']
    -- the counter starts from a file within its limit, so that it does not wrap
    have limit := maxBytes_le cfg
    have short := batch.length_le
    have before := UInt32.le_iff_toNat_le.mp few
    rw [sound.counter,Disk.size] at before
    rw [Disk.size]
    omega
  · intro few
    dsimp only
    rw [same,flatMap_write last bytes,sound.whole few,flatten_append]

end Sound

theorem Sound.execute (sound : Sound cfg state backups) (batch : Batch) :
    (∃ backups, Sound cfg (execute cfg state batch).1 backups) ∧ (execute cfg state batch).1.rotations =
        state.rotations + if cfg.maxBytes.toNat < state.disk.size state.fd.file then 1 else 0 := by
  have cause : needRotateFile cfg state ↔ cfg.maxBytes.toNat < state.disk.size state.fd.file := by
    rw [needRotateFile,decide_eq_true_iff,UInt32.lt_iff_toNat_lt,sound.counter]
  unfold RotateFile.execute prewrite
  rw [sound.linked,if_neg Bool.false_ne_true,if_congr cause rfl rfl]
  split_ifs with long
  · obtain ⟨rotated,empty⟩ := sound.rotateFile
    obtain ⟨_,rotated⟩ := rotated
    exact ⟨⟨_,rotated.batchWrite batch (empty ▸ UInt32.zero_le)⟩,rfl⟩
  · refine ⟨⟨_,sound.batchWrite batch ?_⟩,rfl⟩
    rw [UInt32.le_iff_toNat_le,sound.counter]
    exact Nat.le_of_not_lt long

variable {batches : List Batch}

theorem final_written : (Run.final (execute cfg) state batches).written =
    state.written ++ batches.flatMap Batch.records := by
  induction batches generalizing state with
  | nil => exact (append_nil _).symm
  | cons batch rest ih =>
    have same : (prewrite cfg state).written = state.written := by
      unfold prewrite
      split_ifs <;> rfl
    rw [Run.final_cons,ih,flatMap_cons,← append_assoc,← same]
    rfl

end

/-- After every call the files hold the last bytes of the batches, and a call rotates when the file
was too long. -/
theorem history_kept (config : Config) (batches : List Batch) :
    (Run.final (execute config) .created batches).written = batches.flatMap Batch.records ∧
    Run.Meets (fun state batch => Keeps config (execute config state batch).1 ∧
      (execute config state batch).1.rotations =
        state.rotations + if config.maxBytes.toNat < state.disk.size state.fd.file then 1 else 0)
      (execute config) .created batches := by
  refine ⟨final_written,?_⟩
  refine Run.meets_of_invariant (fun state => ∃ backups, Sound config state backups) ?_ ?_ .created batches
    ⟨_,created_sound⟩ ((Run.meets_forall (fun _ => True) _ batches).mpr fun _ _ => trivial)
  · rintro state batch ⟨_,sound⟩ -
    exact (sound.execute batch).1
  · rintro state batch ⟨_,sound⟩ -
    obtain ⟨⟨_,after⟩,rotations⟩ := sound.execute batch
    exact ⟨after.keeps,rotations⟩

end Mooon.Logger.RotateFile

import Mooon.Run

/-! `delete_old_history_files` of `CDbProcess`: once in the configured hour the files of the history
directory go whose age has reached `history_days`. Times are seconds; `stat` and `remove` of a file
succeed or not, and the process may be told to stop before any of the files. -/
namespace Mooon.DbProxy.History
open List

structure HistoryFile where
  filename : String
  mtime : Option Int
  removable : Bool
deriving DecidableEq

/-- The arguments, the hour of `localtime_r`, and what an `int` product is that overflows. -/
structure Setting where
  historyDays : UInt16
  historyHour : UInt8
  hourOf : Int → Nat
  overflowed : Int32
  positive : 1 ≤ historyDays.toNat

def Setting.limit (setting : Setting) : Int :=
  if 3600 * 24 * setting.historyDays.toNat < 2147483648 then 3600 * 24 * setting.historyDays.toNat
  else setting.overflowed.toInt

def Setting.kept (setting : Setting) : Int := 86400 * setting.historyDays.toNat

def removeOld (limit now : Int) (stops : Nat → Bool) : Nat → List HistoryFile → List HistoryFile
  | _, [] => []
  | i, file::rest =>
    if stops i then []
    else
      match file.mtime with
      | none => removeOld limit now stops (i+1) rest
      | some mtime =>
        if now - mtime < limit then removeOld limit now stops (i+1) rest
        else if file.removable then file :: removeOld limit now stops (i+1) rest
        else removeOld limit now stops (i+1) rest

/-- A call: the time, the files in the directory unless `list` throws, and the stop. -/
structure Call where
  now : Int
  files : Option (List HistoryFile)
  stops : Nat → Bool

def deleteOldHistoryFiles (setting : Setting) (deletedToday : Bool) (call : Call) : Bool × List HistoryFile :=
  if setting.hourOf call.now ≠ setting.historyHour.toNat then (false,[])
  else if deletedToday then (true,[])
  else
    match call.files with
    | none => (true,[])
    | some files => (true,removeOld setting.limit call.now call.stops 0 files)

section
variable {limit now : Int} {stops : Nat → Bool} {i : Nat} {files : List HistoryFile} {file : HistoryFile}

theorem removeOld_age (removed : file ∈ removeOld limit now stops i files) :
    file ∈ files ∧ ∃ mtime, file.mtime = some mtime ∧ limit ≤ now - mtime := by
  induction files generalizing i with
  | nil => exact absurd removed not_mem_nil
  | cons first rest ih =>
    have later : file ∈ removeOld limit now stops (i+1) rest →
        file ∈ first::rest ∧ ∃ mtime, file.mtime = some mtime ∧ limit ≤ now - mtime := by
      intro mem
      obtain ⟨inside,old⟩ := ih mem
      exact ⟨mem_cons_of_mem _ inside,old⟩
    rw [removeOld] at removed
    split at removed
    · exact absurd removed not_mem_nil
    · split at removed
      · exact later removed
      · rename_i mtime found
        split at removed
        · exact later removed
        · rename_i reached
          split at removed
          · rcases List.mem_cons.mp removed with rfl | mem
            · exact ⟨mem_cons_self,mtime,found,Int.not_lt.mp reached⟩
            · exact later mem
          · exact later removed

theorem mem_removeOld {mtime : Int}
    (going : ∀ i, stops i = false) (inside : file ∈ files) (found : file.mtime = some mtime)
    (removable : file.removable) (old : limit ≤ now - mtime) : file ∈ removeOld limit now stops i files := by
  induction files generalizing i with
  | nil => exact absurd inside not_mem_nil
  | cons first rest ih =>
    rw [removeOld,going i,if_neg (by decide)]
    rcases List.mem_cons.mp inside with rfl | later
    · rw [found]
      dsimp only
      rw [if_neg (Int.not_lt.mpr old),if_pos removable]
      exact mem_cons_self
    · split
      · exact ih later
      · split
        · exact ih later
        · split
          · exact mem_cons_of_mem _ (ih later)
          · exact ih later

end

/-- Whatever is in the directory: no file goes before its time, and in the hour every file goes
whose time has come and that can be removed. -/
structure Keeps (setting : Setting) (deletedToday : Bool) (now : Int) : Prop where
  young : ∀ files stops, ∀ file ∈ (deleteOldHistoryFiles setting deletedToday ⟨now,files,stops⟩).2,
    ∀ mtime, file.mtime = some mtime → mtime ≤ now → setting.kept ≤ now - mtime
  old : setting.hourOf now = setting.historyHour.toNat →
    ∀ files, ∀ file ∈ files, ∀ mtime, file.mtime = some mtime →
    file.removable → setting.kept ≤ now - mtime →
      file ∈ (deleteOldHistoryFiles setting deletedToday ⟨now,some files,fun _ => false⟩).2

section
variable {setting : Setting}

theorem limit_of_le (fits : setting.historyDays.toNat ≤ 24855) : setting.limit = setting.kept := by
  unfold Setting.limit Setting.kept
  omega

theorem limit_lt_kept (large : 24855 < setting.historyDays.toNat) : setting.limit < setting.kept := by
  have small := setting.overflowed.toInt_lt
  unfold Setting.limit Setting.kept
  omega

theorem deleteOld_of_hour {now : Int} (hour : setting.hourOf now = setting.historyHour.toNat)
    (files : List HistoryFile) (stops : Nat → Bool) :
    deleteOldHistoryFiles setting false ⟨now,some files,stops⟩ =
      (true,removeOld setting.limit now stops 0 files) := by
  unfold deleteOldHistoryFiles
  rw [if_neg (not_not.mpr hour),if_neg (by decide)]

theorem deleteOld_cases {deletedToday : Bool} {call : Call} {file : HistoryFile}
    (removed : file ∈ (deleteOldHistoryFiles setting deletedToday call).2) :
    setting.hourOf call.now = setting.historyHour.toNat ∧ deletedToday = false ∧
      ∃ mtime, file.mtime = some mtime ∧ setting.limit ≤ call.now - mtime := by
  unfold deleteOldHistoryFiles at removed
  split at removed
  · exact absurd removed not_mem_nil
  · rename_i hour
    split at removed
    · exact absurd removed not_mem_nil
    · rename_i first
      split at removed
      · exact absurd removed not_mem_nil
      · exact ⟨not_not.mp hour,Bool.not_eq_true _ ▸ first,(removeOld_age removed).2⟩

end

def fileOfAge (now age : Int) : HistoryFile := ⟨"sql.0001700000000.000000",some (now - age),true⟩

theorem keeps_of_fits {setting : Setting} {deletedToday : Bool} {now : Int}
    (cond : setting.hourOf now = setting.historyHour.toNat → deletedToday = false ∧
      setting.historyDays.toNat ≤ 24855) :
    Keeps setting deletedToday now := by
  constructor
  · intro files stops file removed mtime found _
    obtain ⟨hour,-,time,same,reached⟩ := deleteOld_cases removed
    rw [found] at same
    cases same
    rw [← limit_of_le (cond hour).2]
    exact reached
  · intro hour files file inside mtime found removable old
    obtain ⟨rfl,fits⟩ := cond hour
    rw [deleteOld_of_hour hour]
    apply mem_removeOld (fun _ => rfl) inside found removable
    rw [limit_of_le fits]
    exact old

/-- The limit is right up to 24855 days, and then too small for some file. -/
theorem keeps_iff (setting : Setting) (deletedToday : Bool) (now : Int) : Keeps setting deletedToday now ↔
      (setting.hourOf now = setting.historyHour.toNat → deletedToday = false ∧
        setting.historyDays.toNat ≤ 24855) := by
  constructor
  · intro keeps hour
    have gone := keeps.old hour [fileOfAge now setting.kept] _ mem_cons_self _ rfl rfl (by omega)
    have first := (deleteOld_cases gone).2.1
    refine ⟨first,?_⟩
    by_contra large
    have less := limit_lt_kept (Nat.lt_of_not_le large)
    -- a file that is as old as the limit, or new where the limit is negative
    have removed : fileOfAge now (max setting.limit 0) ∈ removeOld setting.limit now (fun _ => false) 0
        [fileOfAge now (max setting.limit 0)] := by
      apply mem_removeOld (fun _ => rfl) mem_cons_self rfl rfl
      omega
    rw [first] at keeps
    have young := keeps.young (some [fileOfAge now (max setting.limit 0)]) (fun _ => false) _
      (by rw [deleteOld_of_hour hour]; exact removed) _ rfl (by omega)
    have positive : 0 < setting.kept := by
      unfold Setting.kept
      omega
    omega
  · exact keeps_of_fits

def longKept : Setting where
  historyDays := 24856
  historyHour := 2
  hourOf := fun now => (now / 3600 % 24).toNat
  overflowed := Int32.ofInt (3600 * 24 * 24856)
  positive := Nat.le_of_ble_eq_true rfl

-- the limit is negative, so a file goes that was written just now
theorem new_file_removed :
    (deleteOldHistoryFiles longKept false ⟨1700013600,some [fileOfAge 1700013600 0],fun _ => false⟩).2 =
        [fileOfAge 1700013600 0] ∧ ¬Keeps longKept false 1700013600 := by
  have removed : (deleteOldHistoryFiles longKept false
      ⟨1700013600,some [fileOfAge 1700013600 0],fun _ => false⟩).2 = [fileOfAge 1700013600 0] := by decide
  refine ⟨removed,?_⟩
  intro keeps
  have young := keeps.young (some [fileOfAge 1700013600 0]) (fun _ => false) (fileOfAge 1700013600 0)
  exact absurd young (by decide)

theorem days_kept (setting : Setting) (fits : setting.historyDays.toNat ≤ 24855) (calls : List Call)
    (call : Call)
    (other : ∀ last ∈ calls.getLast?, setting.hourOf last.now ≠ setting.historyHour.toNat) :
    Keeps setting (Run.final (deleteOldHistoryFiles setting) false calls) call.now := by
  apply keeps_of_fits
  intro _
  refine ⟨?_,fits⟩
  rcases eq_nil_or_concat calls with rfl | ⟨before,last,rfl⟩
  · rfl
  · rw [concat_eq_append] at other ⊢
    have away := other last (by simp)
    rw [Run.final_append,Run.final_cons,Run.final_nil,deleteOldHistoryFiles,if_pos away]

end Mooon.DbProxy.History

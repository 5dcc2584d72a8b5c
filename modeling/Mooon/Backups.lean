import Mooon.Disk
import Mathlib.Order.Interval.Set.Nat

/-! Files that are numbered by their age: the one without a number is written, and becomes the
backup of number one when all the backups move up by one. Number zero stands for the file without a
number. -/
namespace Mooon.Backups
open List Function

abbrev Files := Disk Nat

/-- The file written to, if there is one, and the backups from the youngest to the oldest. -/
structure Numbered (disk : Files) (current : Option Nat) (backups : List Nat) : Prop where
  distinct : disk.Distinct
  current : disk.lookup 0 = current
  backups : ∀ index, disk.lookup (index+1) = backups[index]?

/-- The files move up, those of the highest numbers first, and the last one takes the place of a file. -/
def shift : Nat → Files → Files
  | 0, disk => disk
  | highest+1, disk => shift highest (disk.rename highest (highest+1))

def content (disk : Files) (number : Nat) : List UInt8 := ((disk.lookup number).map disk.bytes).getD []

/-- What is in the backups from a number downwards and in the file behind them. -/
def text : Nat → Files → List UInt8
  | 0, disk => content disk 0
  | highest+1, disk => content disk (highest+1) ++ text highest disk

def numbers (disk : Files) : Set Nat := {number | 0 < number ∧ disk.lookup number ≠ none}

/-- The files hold whole records, which are the last ones of all. -/
def Logged (disk : Files) (files : List Nat) (records : List (List UInt8)) : Prop :=
  ∃ held : Nat → List (List UInt8), (∀ file ∈ files, disk.bytes file = (held file).flatten) ∧
    files.flatMap held <:+ records

section
variable {disk : Files} {cur : Option Nat} {backups : List Nat}

theorem lookup_rename_next {number : Nat} (nodup : disk.Distinct)
    (gapless : disk.lookup number = none → disk.lookup (number+1) = none) (other : Nat) :
    (disk.rename number (number+1)).lookup other =
      if other = number+1 then disk.lookup number else if other = number then none
        else disk.lookup other := by
  by_cases found : disk.lookup number = none
  · rw [Disk.rename_missing (Disk.free_iff.mpr found)]
    split_ifs with next same
    · rw [next,found,gapless found]
    · rw [same,found]
    · rfl
  · exact Disk.lookup_rename nodup found

/-- Each number up to the highest has the file of the one below it. -/
structure Shifted (highest : Nat) (before after : Files) : Prop where
  distinct : after.Distinct
  bytes : after.bytes = before.bytes
  next : after.next = before.next
  first : 0 < highest → after.lookup 0 = none
  moved : ∀ number < highest, after.lookup (number+1) = before.lookup number
  above : ∀ number, highest < number → after.lookup number = before.lookup number

theorem shift_shifted (highest : Nat) (nodup : disk.Distinct)
    (gapless : ∀ number < highest, disk.lookup number = none → disk.lookup (number+1) = none) :
    Shifted highest disk (shift highest disk) := by
  induction highest generalizing disk with
  | zero =>
    exact ⟨nodup,rfl,rfl,fun some => absurd some (Nat.lt_irrefl 0),
      fun _ below => absurd below (Nat.not_lt_zero _),
      fun _ _ => rfl⟩
  | succ highest ih =>
    have renamed := lookup_rename_next nodup (gapless highest (Nat.lt_succ_self highest))
    have below : ∀ number < highest,
        (disk.rename highest (highest+1)).lookup number = disk.lookup number := by
      intro number small
      rw [renamed,if_neg (by omega),if_neg (by omega)]
    have last : (disk.rename highest (highest+1)).lookup highest = none := by
      rw [renamed,if_neg (by omega),if_pos rfl]
    have still : ∀ number < highest, (disk.rename highest (highest+1)).lookup number = none →
        (disk.rename highest (highest+1)).lookup (number+1) = none := by
      intro number small missing
      rcases Nat.lt_or_ge (number+1) highest with before | top
      · rw [below _ before]
        rw [below _ small] at missing
        exact gapless number (Nat.lt_succ_of_lt small) missing
      · have same : number + 1 = highest := Nat.le_antisymm small top
        rw [same]
        exact last
    have shifted := ih nodup.rename still
    refine ⟨shifted.distinct,shifted.bytes.trans Disk.rename_bytes,
      shifted.next.trans Disk.rename_next,?_,?_,?_⟩
    · intro _
      cases highest with
      | zero => exact last
      | succ rest => exact shifted.first (Nat.succ_pos rest)
    · intro number small
      rcases Nat.lt_succ_iff_lt_or_eq.mp small with before | rfl
      · exact (shifted.moved number before).trans (below number before)
      · rw [shift,shifted.above _ (Nat.lt_succ_self _),renamed,if_pos rfl]
    · intro number large
      rw [shift,shifted.above number (by omega),renamed,if_neg (by omega),if_neg (by omega)]

namespace Numbered
variable (numbered : Numbered disk cur backups)
include numbered

variable {file : Nat} {highest : Nat}

theorem shift (written : cur = some file) (pos : 0 < highest) (fits : backups.length ≤ highest) :
    Numbered (shift highest disk) none ((file::backups).take highest) ∧
      (Backups.shift highest disk).bytes = disk.bytes ∧
      (Backups.shift highest disk).next = disk.next := by
  have found : ∀ number, disk.lookup number = (file::backups)[number]? := by
    intro number
    cases number with
    | zero => exact numbered.current.trans written
    | succ index => exact numbered.backups index
  have shifted := shift_shifted highest numbered.distinct (by
    intro number _ missing
    rw [found,getElem?_eq_none_iff] at missing ⊢
    exact Nat.le_succ_of_le missing)
  refine ⟨⟨shifted.distinct,shifted.first pos,?_⟩,shifted.bytes,shifted.next⟩
  intro index
  rcases Nat.lt_or_ge index highest with inside | outside
  · rw [shifted.moved index inside,found,getElem?_take_of_lt inside]
  · rw [shifted.above _ (Nat.lt_succ_of_le outside),numbered.backups,getElem?_take_eq_none outside,
      getElem?_eq_none_iff]
    exact Nat.le_trans fits outside

theorem create (missing : cur = none) : Numbered (disk.create 0) (some disk.next) backups := by
  have free := Disk.free_iff.mpr (numbered.current.trans missing)
  refine ⟨numbered.distinct.create free,?_,?_⟩
  · rw [Disk.lookup_create numbered.distinct free,if_pos rfl]
  · intro index
    rw [Disk.lookup_create numbered.distinct free]
    exact numbered.backups index

theorem write (data : List UInt8) (descriptor : Descriptor) :
    Numbered (disk.write data descriptor).1 cur backups := by
  refine ⟨numbered.distinct.write data descriptor,?_,?_⟩
  · rw [Disk.lookup_write]
    exact numbered.current
  · intro index
    rw [Disk.lookup_write]
    exact numbered.backups index

theorem backup_lt (mem : file ∈ backups) : file < disk.next := by
  obtain ⟨index,found⟩ := mem_iff_getElem?.mp mem
  exact ((Disk.lookup_eq_some numbered.distinct).mp ((numbered.backups index).trans found)).1

theorem nodup : backups.Nodup := by
  rw [nodup_iff_getElem?_ne_getElem?]
  intro first second before inside same
  obtain ⟨file,found⟩ : ∃ file, backups[second]? = some file := ⟨_,getElem?_eq_getElem inside⟩
  have here := (Disk.lookup_eq_some numbered.distinct).mp ((numbered.backups first).trans (same.trans found))
  have there := (Disk.lookup_eq_some numbered.distinct).mp ((numbered.backups second).trans found)
  have number := Option.some.inj (here.2.symm.trans there.2)
  omega

theorem current_not_backup (written : cur = some file) : file ∉ backups := by
  intro mem
  obtain ⟨index,found⟩ := mem_iff_getElem?.mp mem
  have here := (Disk.lookup_eq_some numbered.distinct).mp (numbered.current.trans written)
  have there := (Disk.lookup_eq_some numbered.distinct).mp ((numbered.backups index).trans found)
  exact absurd (Option.some.inj (here.2.symm.trans there.2)) (Nat.succ_ne_zero index).symm

theorem text_eq (fits : backups.length ≤ highest) :
    text highest disk = (backups.reverse ++ cur.toList).flatMap disk.bytes := by
  have upTo : ∀ number, text number disk =
      ((backups.take number).reverse ++ cur.toList).flatMap disk.bytes := by
    intro number
    induction number with
    | zero =>
      rw [text,content,numbered.current]
      cases cur <;> simp
    | succ number ih =>
      rw [text,ih,content,numbered.backups,take_add_one]
      cases backups[number]? <;> simp
  rw [upTo,take_of_length_le fits]

theorem card_numbers : (numbers disk).ncard = backups.length := by
  have interval : numbers disk = Set.Icc 1 backups.length := by
    ext number
    cases number with
    | zero => simp [numbers]
    | succ index =>
      rw [numbers,Set.mem_ofPred_eq,numbered.backups,Ne,getElem?_eq_none_iff,Set.mem_Icc]
      omega
  rw [interval,Set.ncard_eq_toFinset_card',Set.toFinset_Icc,Nat.card_Icc,Nat.add_sub_cancel]

end Numbered

variable {files : List Nat} {records : List (List UInt8)}

theorem logged_nil : Logged disk [] records := by
  refine ⟨fun _ => [],fun _ inside => absurd inside not_mem_nil,?_⟩
  exact nil_suffix

variable {after : Files}

section
variable (logged : Logged disk files records)
include logged

theorem Logged.congr
    (same : ∀ file ∈ files, after.bytes file = disk.bytes file) : Logged after files records := by
  obtain ⟨held,filled,last⟩ := logged
  exact ⟨held,fun file inside => (same file inside).trans (filled file inside),last⟩

theorem Logged.suffix {younger : List Nat} (kept : younger <:+ files) :
    Logged disk younger records := by
  obtain ⟨held,filled,last⟩ := logged
  refine ⟨held,fun file inside => filled file (kept.subset inside),?_⟩
  obtain ⟨older,rfl⟩ := kept
  rw [flatMap_append] at last
  exact (suffix_append _ _).trans last

variable {file : Nat}

theorem Logged.snoc (new : file ∉ files)
    (empty : disk.bytes file = []) : Logged disk (files ++ [file]) records := by
  obtain ⟨held,filled,last⟩ := logged
  have same : ∀ other ∈ files, update held file [] other = held other := by
    intro other inside
    have apart : other ≠ file := fun equal => new (equal ▸ inside)
    exact update_of_ne apart _ _
  refine ⟨update held file [],?_,?_⟩
  · rw [forall_mem_append,forall_mem_singleton,update_self]
    exact ⟨fun other inside => (same other inside).symm ▸ filled other inside,empty⟩
  · rw [flatMap_append,flatMap_singleton,update_self,append_nil]
    rwa [flatMap_congr same]

end

theorem Logged.shift (logged : Logged disk (backups.reverse ++ cur.toList) records)
    (numbered : Numbered disk cur backups) {highest : Nat} (written : cur = some file)
    (pos : 0 < highest) (fits : backups.length ≤ highest) :
    Logged (shift highest disk) ((file::backups).take highest).reverse records := by
  have kept : ((file::backups).take highest).reverse <:+ backups.reverse ++ cur.toList := by
    rw [written,Option.toList_some,← reverse_cons,reverse_suffix]
    exact take_prefix _ _
  exact (logged.suffix kept).congr fun other _ => congrFun (numbered.shift written pos fits).2.1 other

theorem Logged.create (logged : Logged disk backups.reverse records) (numbered : Numbered disk cur backups) :
    Logged (disk.create 0) (backups.reverse ++ [disk.next]) records := by
  have old : ∀ file ∈ backups.reverse, file < disk.next :=
    fun file inside => numbered.backup_lt (mem_reverse.mp inside)
  refine (logged.congr fun file inside => Disk.create_bytes (old file inside)).snoc ?_ (update_self _ _ _)
  exact fun inside => Nat.lt_irrefl _ (old _ inside)

theorem Logged.write (logged : Logged disk (files ++ [file]) records) (last : file ∉ files)
    {more : List (List UInt8)}
    (written : after.bytes = update disk.bytes file (disk.bytes file ++ more.flatten)) :
    Logged after (files ++ [file]) (records ++ more) := by
  obtain ⟨held,filled,ends⟩ := logged
  rw [forall_mem_append,forall_mem_singleton] at filled
  have apart : ∀ other ∈ files, other ≠ file := fun other inside equal => last (equal ▸ inside)
  have same : ∀ other ∈ files, update held file (held file ++ more) other = held other :=
    fun other inside => update_of_ne (apart other inside) _ _
  refine ⟨update held file (held file ++ more),?_,?_⟩
  · rw [forall_mem_append,forall_mem_singleton,written,update_self,update_self,
      filled.2,flatten_append]
    refine ⟨fun other inside => ?_,rfl⟩
    rw [update_of_ne (apart other inside),same other inside]
    exact filled.1 other inside
  · rw [flatMap_append,flatMap_congr same]
    obtain ⟨dropped,rfl⟩ := ends
    exact ⟨dropped,by simp⟩

theorem Numbered.flatMap_create (numbered : Numbered disk cur backups) :
    (backups.reverse ++ [disk.next]).flatMap (disk.create 0).bytes = backups.reverse.flatMap disk.bytes := by
  have old : ∀ file ∈ backups.reverse, (disk.create 0).bytes file = disk.bytes file :=
    fun file inside => Disk.create_bytes (numbered.backup_lt (mem_reverse.mp inside))
  have new : (disk.create 0).bytes disk.next = [] := update_self _ _ _
  rw [flatMap_append,flatMap_congr old,flatMap_singleton,new,append_nil]

theorem flatMap_write (last : file ∉ files) {data : List UInt8}
    (written : after.bytes = update disk.bytes file (disk.bytes file ++ data)) :
    (files ++ [file]).flatMap after.bytes = (files ++ [file]).flatMap disk.bytes ++ data := by
  have same : ∀ other ∈ files, after.bytes other = disk.bytes other := by
    intro other inside
    have apart : other ≠ file := fun equal => last (equal ▸ inside)
    rw [written,update_of_ne apart]
  rw [flatMap_append,flatMap_congr same,flatMap_singleton,written,update_self,flatMap_append,
    flatMap_singleton,
    append_assoc]

theorem Logged.text (logged : Logged disk files records) :
    ∃ lost, files.flatMap disk.bytes = (records.drop lost).flatten := by
  obtain ⟨held,filled,dropped,rfl⟩ := logged
  refine ⟨dropped.length,?_⟩
  rw [drop_left,flatMap_congr filled,flatMap_def,flatMap_def,flatten_flatten,map_map]
  rfl

end

end Mooon.Backups

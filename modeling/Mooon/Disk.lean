import Mathlib.Data.List.Infix

/-! The files of one directory. A file is known by its inode and has at most one name, which another
file may take from it; whoever has it open goes on with the file, whatever becomes of its name. -/
namespace Mooon
open List Option Function

/-- The inodes from `next` on are unused. -/
structure Disk (Name : Type) where
  link : Nat → Option Name
  bytes : Nat → List UInt8
  next : Nat

structure Descriptor where
  file : Nat
  position : Option Nat
deriving DecidableEq

namespace Disk
variable {Name : Type}

def empty : Disk Name := ⟨fun _ => none,fun _ => [],0⟩

def lookup [DecidableEq Name] (name : Name) (disk : Disk Name) : Option Nat :=
  (List.range disk.next).find? fun file => disk.link file = some name

def create (name : Name) (disk : Disk Name) : Disk Name :=
  ⟨Function.update disk.link disk.next (some name),Function.update disk.bytes disk.next [],disk.next+1⟩

def openOrCreate [DecidableEq Name] (name : Name) (disk : Disk Name) : Disk Name × Nat :=
  match disk.lookup name with
  | some file => (disk,file)
  | none => (disk.create name,disk.next)

def openExclusive [DecidableEq Name] (name : Name) (disk : Disk Name) : Option (Disk Name × Nat) :=
  match disk.lookup name with
  | some _ => none
  | none => some (disk.create name,disk.next)

def rename [DecidableEq Name] (old new : Name) (disk : Disk Name) : Disk Name :=
  match disk.lookup old with
  | none => disk
  | some _ =>
    {disk with link := fun file =>
      if disk.link file = some old then some new else if disk.link file = some new then none
      else disk.link file}

def overwrite (position : Nat) (data bytes : List UInt8) : List UInt8 :=
  bytes.take position ++ List.replicate (position - bytes.length) 0 ++ data ++
    bytes.drop (position + data.length)

def write (data : List UInt8) (descriptor : Descriptor) (disk : Disk Name) : Disk Name × Descriptor :=
  let bytes := disk.bytes descriptor.file
  match descriptor.position with
  | none => ({disk with bytes := Function.update disk.bytes descriptor.file (bytes ++ data)},descriptor)
  | some position =>
    ({disk with bytes := Function.update disk.bytes descriptor.file (overwrite position data bytes)},
      ⟨descriptor.file,some (position + data.length)⟩)

def truncate (file : Nat) (disk : Disk Name) : Disk Name :=
  {disk with bytes := Function.update disk.bytes file []}

def size (file : Nat) (disk : Disk Name) : Nat := (disk.bytes file).length

def Linked (file : Nat) (disk : Disk Name) : Prop := file < disk.next ∧ disk.link file ≠ none

def Free (name : Name) (disk : Disk Name) : Prop := ∀ file < disk.next, disk.link file ≠ some name

def Distinct (disk : Disk Name) : Prop :=
  ∀ name, ∀ first < disk.next, ∀ second < disk.next,
    disk.link first = some name → disk.link second = some name → first = second

def AtEnd (descriptor : Descriptor) (disk : Disk Name) : Prop :=
  ∀ position ∈ descriptor.position, position = disk.size descriptor.file

instance (file : Nat) (disk : Disk Name) : Decidable (disk.Linked file) := inferInstanceAs (Decidable (_ ∧ _))

instance [DecidableEq Name] (name : Name) (disk : Disk Name) : Decidable (disk.Free name) :=
  inferInstanceAs (Decidable (∀ file < disk.next, _))

instance (descriptor : Descriptor) (disk : Disk Name) : Decidable (disk.AtEnd descriptor) :=
  inferInstanceAs (Decidable (∀ position ∈ descriptor.position, _))

section
variable {disk : Disk Name} {name old new other : Name} {file : Nat} {line : List UInt8}

theorem create_link (inside : file < disk.next) : (disk.create name).link file = disk.link file :=
  update_of_ne (Nat.ne_of_lt inside) _ _

theorem create_bytes (inside : file < disk.next) : (disk.create name).bytes file = disk.bytes file :=
  update_of_ne (Nat.ne_of_lt inside) _ _

theorem Linked.create (linked : disk.Linked file) : (disk.create name).Linked file := by
  refine ⟨Nat.lt_succ_of_lt linked.1,?_⟩
  rw [create_link linked.1]
  exact linked.2

theorem Free.create (free : disk.Free other) (apart : name ≠ other) : (disk.create name).Free other := by
  intro file inside
  rcases Nat.lt_succ_iff_lt_or_eq.mp inside with before | rfl
  · rw [create_link before]
    exact free file before
  · have own : (disk.create name).link disk.next = some name := update_self _ _ _
    rw [own]
    exact fun same => apart (some.inj same)

variable (data : List UInt8) (descriptor : Descriptor)

theorem write_link : (disk.write data descriptor).1.link = disk.link := by
  unfold write
  split <;> rfl

theorem write_next : (disk.write data descriptor).1.next = disk.next := by
  unfold write
  split <;> rfl

theorem Linked.write (linked : disk.Linked file) (data : List UInt8) (descriptor : Descriptor) :
    (disk.write data descriptor).1.Linked file := by
  unfold Linked
  rw [write_next,write_link]
  exact linked

theorem Free.write (free : disk.Free name) (data : List UInt8) (descriptor : Descriptor) :
    (disk.write data descriptor).1.Free name := by
  unfold Free
  rw [write_next,write_link]
  exact free

theorem overwrite_end (bytes : List UInt8) : overwrite bytes.length data bytes = bytes ++ data := by
  simp [overwrite]

variable {descriptor : Descriptor}

section
variable (atEnd : disk.AtEnd descriptor)
include atEnd

theorem write_bytes : (disk.write data descriptor).1.bytes =
      update disk.bytes descriptor.file (disk.bytes descriptor.file ++ data) := by
  unfold write
  dsimp only
  split
  · rfl
  · rename_i pos there
    rw [atEnd pos there,size,overwrite_end]

theorem AtEnd.write : (disk.write data descriptor).2.file = descriptor.file ∧
      (disk.write data descriptor).1.AtEnd (disk.write data descriptor).2 := by
  obtain ⟨file,pos⟩ := descriptor
  cases pos with
  | none => exact ⟨rfl,fun pos there => absurd there (not_mem_none pos)⟩
  | some pos =>
    refine ⟨rfl,?_⟩
    rintro _ ⟨⟩
    have size := atEnd pos rfl
    change _ = ((disk.write data ⟨file,some pos⟩).1.bytes file).length
    rw [write_bytes data atEnd,update_self,length_append,size]
    rfl

theorem infix_write
    (inside : line <:+: disk.bytes file) : line <:+: (disk.write data descriptor).1.bytes file := by
  rw [write_bytes data atEnd]
  by_cases same : file = descriptor.file
  · rw [same,update_self]
    rw [same] at inside
    exact inside.trans (prefix_append _ _).isInfix
  · rw [update_of_ne same]
    exact inside

theorem infix_written :
    data <:+: (disk.write data descriptor).1.bytes descriptor.file := by
  rw [write_bytes data atEnd,update_self]
  exact (suffix_append _ _).isInfix

end

variable [DecidableEq Name]

theorem free_iff : disk.Free name ↔ disk.lookup name = none := by
  simp [Free,lookup]

theorem rename_link (found : disk.lookup old ≠ none) (file : Nat) : (disk.rename old new).link file =
    if disk.link file = some old then some new else if disk.link file = some new then none
      else disk.link file := by
  unfold rename
  split
  · rename_i missing
    exact absurd missing found
  · rfl

theorem rename_missing (free : disk.Free old) : disk.rename old new = disk := by
  rw [rename,free_iff.mp free]

theorem rename_next : (disk.rename old new).next = disk.next := by
  unfold rename
  split <;> rfl

theorem rename_bytes : (disk.rename old new).bytes = disk.bytes := by
  unfold rename
  split <;> rfl

theorem Linked.rename (linked : disk.Linked file) (other : disk.link file ≠ some new) :
    (disk.rename old new).Linked file := by
  refine ⟨linked.1.trans_eq rename_next.symm,?_⟩
  by_cases found : disk.lookup old = none
  · rw [rename_missing (free_iff.mpr found)]
    exact linked.2
  · rw [rename_link found]
    split_ifs
    · simp
    · exact linked.2

theorem Free.rename (free : disk.Free name) (apart : new ≠ name) : (disk.rename old new).Free name := by
  intro file inside
  have before := free file (inside.trans_eq rename_next)
  by_cases found : disk.lookup old = none
  · rw [rename_missing (free_iff.mpr found)]
    exact before
  · rw [rename_link found]
    split_ifs
    · exact fun same => apart (some.inj same)
    · simp
    · exact before

theorem free_rename (apart : new ≠ old) : (disk.rename old new).Free old := by
  intro file inside
  by_cases found : disk.lookup old = none
  · rw [rename_missing (free_iff.mpr found)]
    exact free_iff.mpr found file (inside.trans_eq rename_next)
  · rw [rename_link found]
    split_ifs with same
    · exact fun named => apart (some.inj named)
    · simp
    · exact same

omit [DecidableEq Name] in
theorem distinct_empty : (empty : Disk Name).Distinct := fun _ _ inside => absurd inside (Nat.not_lt_zero _)

theorem lookup_eq_some (nodup : disk.Distinct) :
    disk.lookup name = some file ↔ file < disk.next ∧ disk.link file = some name := by
  constructor
  · intro found
    exact ⟨mem_range.mp (mem_of_find?_eq_some found),by simpa using find?_some found⟩
  · rintro ⟨inside,named⟩
    cases found : disk.lookup name with
    | none => exact absurd named (free_iff.mpr found file inside)
    | some other =>
      have there := mem_range.mp (mem_of_find?_eq_some found)
      have same : disk.link other = some name := by simpa using find?_some found
      rw [nodup name other there file inside same named]

theorem lookup_write : (disk.write data descriptor).1.lookup name = disk.lookup name := by
  rw [lookup,write_next,write_link,lookup]

omit [DecidableEq Name] in
theorem Distinct.write (nodup : disk.Distinct) (data : List UInt8) (descriptor : Descriptor) :
    (disk.write data descriptor).1.Distinct := by
  unfold Distinct
  rw [write_next,write_link]
  exact nodup

omit [DecidableEq Name] in
theorem Distinct.create (nodup : disk.Distinct) (free : disk.Free name) : (disk.create name).Distinct := by
  have last : (disk.create name).link disk.next = some name := update_self _ _ _
  intro other first inside second there named same
  rcases Nat.lt_succ_iff_lt_or_eq.mp inside with old | rfl <;>
    rcases Nat.lt_succ_iff_lt_or_eq.mp there with older | rfl
  · rw [create_link old] at named
    rw [create_link older] at same
    exact nodup other first old second older named same
  · rw [create_link old] at named
    rw [last] at same
    exact absurd (same ▸ named) (free first old)
  · rw [create_link older] at same
    rw [last] at named
    exact absurd (named ▸ same) (free second older)
  · rfl

theorem lookup_create (nodup : disk.Distinct) (free : disk.Free name) :
    (disk.create name).lookup other = if other = name then some disk.next else disk.lookup other := by
  have last : (disk.create name).link disk.next = some name := update_self _ _ _
  split_ifs with same
  · rw [same,lookup_eq_some (nodup.create free)]
    exact ⟨Nat.lt_succ_self _,last⟩
  · ext file
    rw [lookup_eq_some (nodup.create free),lookup_eq_some nodup]
    constructor
    · rintro ⟨inside,named⟩
      rcases Nat.lt_succ_iff_lt_or_eq.mp inside with old | rfl
      · rw [create_link old] at named
        exact ⟨old,named⟩
      · rw [last,some.injEq] at named
        exact absurd named.symm same
    · rintro ⟨old,named⟩
      rw [create_link old]
      exact ⟨Nat.lt_succ_of_lt old,named⟩

theorem rename_link_eq_some (found : disk.lookup old ≠ none) : (disk.rename old new).link file = some name ↔
    name = new ∧ disk.link file = some old ∨ name ≠ new ∧ name ≠ old ∧ disk.link file = some name := by
  rw [rename_link found]
  split_ifs with first second
  · rw [first,some.injEq]
    constructor
    · exact fun same => Or.inl ⟨same.symm,rfl⟩
    · rintro (⟨same,-⟩ | ⟨-,other,same⟩)
      · exact same.symm
      · exact absurd (some.inj same).symm other
  · rw [second]
    refine iff_of_false id ?_
    rintro (⟨-,same⟩ | ⟨other,-,same⟩)
    · exact first (second.trans same)
    · exact other (some.inj same).symm
  · constructor
    · intro named
      exact Or.inr ⟨fun same => second (same ▸ named),fun same => first (same ▸ named),named⟩
    · rintro (⟨-,named⟩ | ⟨-,-,named⟩)
      · exact absurd named first
      · exact named

theorem Distinct.rename (nodup : disk.Distinct) : (disk.rename old new).Distinct := by
  by_cases found : disk.lookup old = none
  · rw [rename_missing (free_iff.mpr found)]
    exact nodup
  · intro name first inside second there named same
    rw [rename_next] at inside there
    rw [rename_link_eq_some found] at named same
    rcases named with ⟨new,named⟩ | ⟨other,-,named⟩
    · exact nodup _ first inside second there named (same.resolve_right fun other => other.1 new).2
    · exact nodup _ first inside second there named (same.resolve_left fun new => other new.1).2.2

theorem lookup_rename (nodup : disk.Distinct) (found : disk.lookup old ≠ none) :
    (disk.rename old new).lookup name =
      if name = new then disk.lookup old else if name = old then none else disk.lookup name := by
  ext file
  rw [lookup_eq_some nodup.rename,rename_next,rename_link_eq_some found]
  split_ifs with moved left
  · rw [lookup_eq_some nodup]
    simp [moved]
  · subst left
    simp [moved]
  · rw [lookup_eq_some nodup]
    simp [moved,left]

end

end Disk

end Mooon

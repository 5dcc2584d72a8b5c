import Mathlib.Data.List.Nodup

/-! Tables with a primary key. No two rows of a table have the same key; an insert
of a key that is already there fails, as the statement of a database does. -/
namespace Mooon
open List

structure Table {Row Key : Type} (key : Row → Key) where
  rows : List Row
  unique : (rows.map key).Nodup

namespace Table
variable {Row Key : Type} {key : Row → Key}

instance : Membership Row (Table key) := ⟨fun table row => row ∈ table.rows⟩

def empty : Table key := ⟨[],List.nodup_nil⟩

theorem mem_rows (table : Table key) (row : Row) : row ∈ table.rows ↔ row ∈ table := Iff.rfl

@[simp] theorem not_mem_empty (row : Row) : row ∉ (empty : Table key) := not_mem_nil

variable {table : Table key}

theorem eq_of_key {first second : Row} (here : first ∈ table) (there : second ∈ table)
    (same : key first = key second) : first = second :=
  inj_on_of_nodup_map table.unique here there same

def update (change : Row → Row) (keeps : ∀ row, key (change row) = key row) (table : Table key) : Table key :=
  ⟨table.rows.map change,by
    rw [List.map_map,show key ∘ change = key from funext keeps]
    exact table.unique⟩

variable {row : Row}

theorem mem_update {change : Row → Row} {keeps : ∀ row, key (change row) = key row} :
    row ∈ table.update change keeps ↔ ∃ old ∈ table, change old = row := mem_map

def filter (kept : Row → Bool) (table : Table key) : Table key :=
  ⟨table.rows.filter kept,table.unique.sublist (List.filter_sublist.map key)⟩

theorem mem_filter {kept : Row → Bool} :
    row ∈ table.filter kept ↔ row ∈ table ∧ kept row = true := List.mem_filter

variable [DecidableEq Key]

def has (wanted : Key) (table : Table key) : Bool := table.rows.any fun row => key row = wanted

variable {wanted : Key}

theorem has_iff : table.has wanted = true ↔ ∃ row ∈ table, key row = wanted := by
  simp only [has,any_eq_true,decide_eq_true_eq,mem_rows]

theorem has_update (change : Row → Row) (keeps : ∀ row, key (change row) = key row) (wanted : Key)
    (table : Table key) : (table.update change keeps).has wanted = table.has wanted := by
  unfold has update
  rw [any_map]
  simp only [Function.comp_def,keeps]

def find (wanted : Key) (table : Table key) : Option Row := table.rows.find? fun row => key row = wanted

theorem find_some (found : table.find wanted = some row) : row ∈ table ∧ key row = wanted :=
  ⟨mem_of_find?_eq_some found,by simpa using find?_some found⟩

def insert (row : Row) (table : Table key) : Option (Table key) :=
  if fresh : key row ∉ table.rows.map key then
    some ⟨row :: table.rows,by
      rw [List.map_cons,List.nodup_cons]
      exact ⟨fresh,table.unique⟩⟩
  else none

theorem insert_eq_none : table.insert row = none ↔ table.has (key row) = true := by
  rw [has_iff]
  unfold insert
  split
  · rename_i fresh
    simp only [reduceCtorEq,false_iff]
    rintro ⟨old,mem,same⟩
    exact fresh (same ▸ mem_map_of_mem mem)
  · rename_i taken
    simpa [mem_rows] using taken

theorem insert_of_find (row : Row) (absent : table.find (key row) = none) :
    ∃ next, table.insert row = some next ∧ next.rows.length = table.rows.length + 1 := by
  have fresh : key row ∉ table.rows.map key := by
    intro mem
    obtain ⟨old,there,same⟩ := mem_map.mp mem
    have other := find?_eq_none.mp absent old there
    exact other (decide_eq_true same)
  unfold insert
  rw [dif_pos fresh]
  exact ⟨_,rfl,length_cons⟩

variable {next : Table key}

theorem mem_insert {other : Row} (added : table.insert row = some next) :
    other ∈ next ↔ other = row ∨ other ∈ table := by
  unfold insert at added
  split at added
  · cases added
    exact mem_cons
  · cases added

theorem has_insert (added : table.insert row = some next) :
    next.has wanted = true ↔ wanted = key row ∨ table.has wanted = true := by
  rw [has_iff,has_iff]
  constructor
  · rintro ⟨other,mem,rfl⟩
    rcases (mem_insert added).mp mem with rfl | before
    · exact Or.inl rfl
    · exact Or.inr ⟨other,before,rfl⟩
  · rintro (rfl | ⟨other,mem,rfl⟩)
    · exact ⟨row,(mem_insert added).mpr (Or.inl rfl),rfl⟩
    · exact ⟨other,(mem_insert added).mpr (Or.inr mem),rfl⟩

def delete (wanted : Key) (table : Table key) : Table key :=
  ⟨table.rows.filter fun row => key row ≠ wanted,table.unique.sublist (List.filter_sublist.map key)⟩

theorem mem_delete : row ∈ table.delete wanted ↔ row ∈ table ∧ key row ≠ wanted := by
  change row ∈ List.filter _ _ ↔ _
  rw [List.mem_filter,decide_eq_true_eq,mem_rows]

theorem delete_absent (absent : table.has wanted = false) : table.delete wanted = table := by
  obtain ⟨rows,unique⟩ := table
  have kept : rows.filter (fun row => key row ≠ wanted) = rows := by
    rw [filter_eq_self]
    intro row mem
    simpa using any_eq_false.mp absent row mem
  unfold delete
  simp only [kept]

theorem has_delete {other : Key} :
    (table.delete other).has wanted = true ↔ wanted ≠ other ∧ table.has wanted = true := by
  rw [has_iff,has_iff]
  constructor
  · rintro ⟨row,mem,rfl⟩
    obtain ⟨there,kept⟩ := mem_delete.mp mem
    exact ⟨kept,row,there,rfl⟩
  · rintro ⟨kept,row,there,rfl⟩
    exact ⟨row,mem_delete.mpr ⟨there,kept⟩,rfl⟩

end Table

end Mooon

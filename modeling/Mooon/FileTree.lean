import Mathlib.Data.List.Basic

/-! Trees of named files. A directory keeps its children in the order of their names, and a
child is looked up at the first name that is not smaller. A path is the list of the names on
the way from the root. -/
namespace Mooon.FileTree
open List Option Function

mutual
inductive Node (Name Value : Type) where
  | file (value : Value)
  | directory (children : Children Name Value)
deriving DecidableEq
inductive Children (Name Value : Type) where
  | nil
  | cons (name : Name) (node : Node Name Value) (rest : Children Name Value)
deriving DecidableEq
end

inductive Kind (Value : Type) where
  | file (value : Value)
  | directory
deriving DecidableEq

variable {Name Value : Type}

namespace Children

def names : Children Name Value → List Name
  | nil => []
  | cons name _ rest => name :: rest.names

def toList : Children Name Value → List (Name × Node Name Value)
  | nil => []
  | cons name node rest => (name,node) :: rest.toList

section
variable [LT Name] [DecidableLT Name]

def get (name : Name) : Children Name Value → Option (Node Name Value)
  | nil => none
  | cons other node rest => if other < name then rest.get name else if name < other then none else some node

def put (name : Name) (node : Node Name Value) : Children Name Value → Children Name Value
  | nil => cons name node nil
  | cons other old rest =>
    if other < name then cons other old (rest.put name node)
    else if name < other then cons name node (cons other old rest)
    else cons other node rest

def remove (name : Name) : Children Name Value → Children Name Value
  | nil => nil
  | cons other node rest =>
    if other < name then cons other node (rest.remove name)
    else if name < other then cons other node rest
    else rest

/-- The directory of this name, an empty one where there is none. A file is not entered. -/
def enter (name : Name) (children : Children Name Value) : Option (Children Name Value) :=
  match children.get name with
  | none => some nil
  | some (.directory below) => some below
  | some (.file _) => none

/-- The file at this path is set. The directories above it are made; a file above it or a
directory in its place is an obstacle. -/
def insert (value : Value) : List Name → Children Name Value → Option (Children Name Value)
  | [], _ => none
  | [name], children =>
    match children.get name with
    | some (.directory _) => none
    | _ => some (children.put name (.file value))
  | name::next::path, children =>
    (children.enter name).bind (fun below =>
      (below.insert value (next::path)).map (fun changed => children.put name (.directory changed)))

def erase : List Name → Children Name Value → Option (Children Name Value)
  | [], _ => none
  | [name], children => (children.get name).map fun _ => children.remove name
  | name::next::path, children =>
    match children.get name with
    | some (.directory below) =>
      (below.erase (next::path)).map fun changed => children.put name (.directory changed)
    | _ => none

end

end Children

def Node.kind : Node Name Value → Kind Value
  | .file value => .file value
  | .directory _ => .directory

section
variable [LT Name] [DecidableLT Name]

def Node.kindAt : List Name → Node Name Value → Option (Kind Value)
  | [], node => some node.kind
  | _::_, .file _ => none
  | name::path, .directory children => (children.get name).bind (Node.kindAt path)

def Node.nodeAt : List Name → Node Name Value → Option (Node Name Value)
  | [], node => some node
  | _::_, .file _ => none
  | name::path, .directory children => (children.get name).bind (Node.nodeAt path)

def Node.fileAt (node : Node Name Value) (path : List Name) : Option Value :=
  match node.kindAt path with
  | some (.file value) => some value
  | _ => none

/-- A file at this path would stand below a file or in the place of a directory. -/
def Node.Clashes (node : Node Name Value) (path : List Name) : Prop :=
  (∃ above value, above <+: path ∧ above ≠ path ∧ node.kindAt above = some (.file value)) ∨
    node.kindAt path = some .directory

end

mutual
def Node.files : Node Name Value → List (List Name × Value)
  | .file value => [([],value)]
  | .directory children => children.files
def Children.files : Children Name Value → List (List Name × Value)
  | .nil => []
  | .cons name node rest => node.files.map (fun file => (name::file.1,file.2)) ++ rest.files
end

variable {value : Value}

theorem Children.nil_not_mem_files : (children : Children Name Value) → ([],value) ∉ children.files
  | .nil => by simp [files]
  | .cons _ _ rest => by simp [files,nil_not_mem_files rest]

theorem Children.mem_names_of_mem_files {name : Name} {path : List Name} :
    {children : Children Name Value} → (name::path,value) ∈ children.files → name ∈ children.names
  | .nil, mem => absurd mem (by simp [files])
  | .cons first node rest, mem => by
    rcases List.mem_append.mp mem with here | there
    · obtain ⟨file,_,same⟩ := List.mem_map.mp here
      simp only [Prod.mk.injEq,List.cons.injEq] at same
      simp [names,same.1.1]
    · simp [names,mem_names_of_mem_files there]

mutual
def Node.Sorted [LT Name] : Node Name Value → Prop
  | .file _ => True
  | .directory children => children.Sorted
def Children.Sorted [LT Name] : Children Name Value → Prop
  | .nil => True
  | .cons name node rest => node.Sorted ∧ (∀ other ∈ rest.names, name < other) ∧ rest.Sorted
end

section
variable [LT Name] [DecidableLT Name]

namespace Node

variable {node : Node Name Value} {path : List Name} {value : Value}

theorem fileAt_eq_some : node.fileAt path = some value ↔ node.kindAt path = some (.file value) := by
  unfold fileAt
  rcases node.kindAt path with _ | _ | _ <;> simp

theorem kindAt_nil : node.kindAt [] = some node.kind := by
  cases node <;> rfl

theorem clashes_nil : node.Clashes [] ↔ node.kind = .directory := by
  simp [Clashes,kindAt_nil]

variable {name : Name}

theorem clashes_file : (file value : Node Name Value).Clashes (name::path) :=
  .inl ⟨[],value, nil_prefix,(cons_ne_nil name path).symm,rfl⟩

theorem clashes_directory {children : Children Name Value} :
    (directory children).Clashes (name::path) ↔ ∃ child, children.get name = some child ∧
      child.Clashes path := by
  constructor
  · rintro (⟨above,value,shorter,nodup,found⟩ | found)
    · cases above with
      | nil => simp [kindAt,kind] at found
      | cons first above =>
        obtain ⟨rfl,inner⟩ := cons_prefix_cons.mp shorter
        obtain ⟨child,got,found⟩ := bind_eq_some_iff.mp found
        exact ⟨child,got,.inl ⟨above,value,inner,fun same => nodup (by rw [same]),found⟩⟩
    · obtain ⟨child,got,found⟩ := bind_eq_some_iff.mp found
      exact ⟨child,got,.inr found⟩
  · rintro ⟨child,got,⟨above,value,shorter,nodup,found⟩ | found⟩
    · refine .inl ⟨name::above,value,cons_prefix_cons.mpr ⟨rfl,shorter⟩,?_,?_⟩
      · exact fun same => nodup (cons.inj same).2
      · simp [kindAt,got,found]
    · exact .inr (by simp [kindAt,got,found])

variable (path : List Name)

theorem clashes_empty : (directory (.nil : Children Name Value)).Clashes path ↔ path = [] := by
  cases path with
  | nil => simp [clashes_nil,kind]
  | cons name path => simp [clashes_directory,Children.get]

end Node

variable {path : List Name}

theorem Children.insert_cons (value : Value) (name : Name) (longer : path ≠ [])
    (children : Children Name Value) :
    children.insert value (name::path) = (children.enter name).bind (fun below =>
      (below.insert value path).map (fun changed => children.put name (.directory changed))) := by
  obtain ⟨next,rest,rfl⟩ := exists_cons_of_ne_nil longer
  rfl

theorem Children.insert_eq_none (value : Value) (path : List Name) (children : Children Name Value) :
    children.insert value path = none ↔ (Node.directory children).Clashes path := by
  fun_induction insert value path children with
  | case1 children => simp [Node.clashes_nil,Node.kind]
  | case2 name children below got => simp [Node.clashes_directory,got,Node.clashes_nil,Node.kind]
  | case3 name children notDirectory =>
    simp only [reduceCtorEq,Node.clashes_directory,Node.clashes_nil,false_iff,not_exists,not_and]
    rintro (value | below) got
    · simp [Node.kind]
    · exact absurd got (notDirectory below)
  | case4 name next path children ih =>
    rw [Node.clashes_directory]
    unfold enter
    split
    · rename_i absent
      simp [absent,ih,Node.clashes_empty]
    · rename_i below got
      simp [got,ih]
    · rename_i value got
      simp [got,Node.clashes_file]

theorem Children.kindAt_enter {name : Name} {children below : Children Name Value}
    (entered : children.enter name = some below) {other : Name} :
    (Node.directory below).kindAt (other::path) = (children.get name).bind (Node.kindAt (other::path)) := by
  unfold enter at entered
  split at entered
  · rename_i absent
    obtain rfl := some.inj entered
    simp [absent,Node.kindAt,get]
  · rename_i got
    obtain rfl := some.inj entered
    rw [got,bind_some]
  · exact absurd entered (by simp)

namespace Children

def Grown (children : Children Name Value) : Prop :=
  ∀ path, path ≠ [] → (Node.directory children).kindAt path = some .directory →
    ∃ file, path <+: file ∧ path ≠ file ∧ ((Node.directory children).fileAt file).isSome

theorem grown_nil : (nil : Children Name Value).Grown := by
  intro path longer found
  obtain ⟨name,path,rfl⟩ := exists_cons_of_ne_nil longer
  exact absurd found (by simp [Node.kindAt,get])

def PrefixFree (paths : List Name → Prop) : Prop :=
  ∀ first second, paths first → paths second → first <+: second → first = second

theorem Grown.insert_of_prefixFree {children : Children Name Value} (grown : children.Grown)
    (longer : path ≠ []) (free : PrefixFree (fun other => other = path ∨
      ((Node.directory children).fileAt other).isSome)) (value : Value) :
    ∃ changed, children.insert value path = some changed := by
  rw [← ne_none_iff_exists',Ne,insert_eq_none]
  rintro (⟨above,old,shorter,nodup,found⟩ | found)
  · have isFile := Node.fileAt_eq_some.mpr found
    exact nodup (free above path (.inr (by simp [isFile])) (.inl rfl) shorter)
  · obtain ⟨file,below,nodup,isFile⟩ := grown path longer found
    exact nodup (free path file (.inl rfl) (.inr isFile) below)

end Children

namespace Children

variable {name : Name} {node : Node Name Value}

theorem sorted_get : {children : Children Name Value} →
    children.Sorted → children.get name = some node → node.Sorted
  | nil, _, got => absurd got (by simp [get])
  | cons other first rest, ⟨here,_,there⟩, got => by
    unfold get at got
    split at got
    · exact sorted_get there got
    · split at got
      · exact absurd got (by simp)
      · exact some.inj got ▸ here

theorem sorted_enter {children below : Children Name Value} (sorted : children.Sorted)
    (entered : children.enter name = some below) : below.Sorted := by
  unfold enter at entered
  split at entered
  · obtain rfl := some.inj entered
    trivial
  · rename_i got
    obtain rfl := some.inj entered
    exact sorted_get sorted got
  · exact absurd entered (by simp)

variable {other : Name}

theorem mem_names_put : {children : Children Name Value} →
    other ∈ (children.put name node).names → other = name ∨ other ∈ children.names
  | nil, mem => by simpa [put,names] using mem
  | cons first old rest, mem => by
    unfold put at mem
    split at mem
    · rcases mem_cons.mp mem with here | there
      · exact .inr (by simp [names,here])
      · rcases mem_names_put there with same | old
        · exact .inl same
        · exact .inr (by simp [names,old])
    · split at mem
      · simpa [names] using mem
      · exact .inr (by simpa [names] using mem)

theorem mem_names_remove : {children : Children Name Value} →
    other ∈ (children.remove name).names → other ∈ children.names
  | nil, mem => mem
  | cons first old rest, mem => by
    unfold remove at mem
    split at mem
    · rcases mem_cons.mp mem with here | there
      · simp [names,here]
      · simp [names,mem_names_remove there]
    · split at mem
      · exact mem
      · simp [names,mem]

theorem sorted_remove (name : Name) : {children : Children Name Value} →
    children.Sorted → (children.remove name).Sorted
  | nil, _ => trivial
  | cons first old rest, ⟨here,before,there⟩ => by
    unfold remove
    split
    · exact ⟨here,fun other mem => before other (mem_names_remove mem),sorted_remove name there⟩
    · split
      · exact ⟨here,before,there⟩
      · exact there

end Children

namespace Node

theorem kindAt_eq_nodeAt (path : List Name) (node : Node Name Value) :
    node.kindAt path = (node.nodeAt path).map Node.kind := by
  induction path generalizing node with
  | nil => rw [kindAt_nil,nodeAt,map_some]
  | cons name path ih =>
    cases node with
    | file value => rfl
    | directory children =>
      rw [kindAt,nodeAt]
      cases children.get name with
      | none => rfl
      | some child => exact ih child

theorem kindAt_above {node : Node Name Value} {above : List Name} {kind : Kind Value}
    (found : node.kindAt path = some kind) (shorter : above <+: path) (nodup : above ≠ path) :
    node.kindAt above = some .directory := by
  induction above generalizing node path with
  | nil =>
    cases node with
    | directory children => rfl
    | file value =>
      cases path with
      | nil => exact absurd rfl nodup
      | cons name path => cases found
  | cons name above ih =>
    obtain ⟨rest,rfl⟩ := shorter
    cases node with
    | file value => cases found
    | directory children =>
      obtain ⟨child,got,found⟩ := bind_eq_some_iff.mp found
      rw [kindAt,got]
      exact ih found (prefix_append above rest) fun same => nodup (congrArg (cons name) same)

end Node

namespace Children

theorem put_get {name : Name} {node : Node Name Value} : {children : Children Name Value} →
    children.get name = some node → children.put name node = children
  | nil, got => absurd got (by simp [get])
  | cons other old rest, got => by
    unfold get at got
    unfold put
    split at got
    · rename_i below
      rw [if_pos below,put_get got]
    · rename_i notBelow
      rw [if_neg notBelow]
      split at got
      · cases got
      · rename_i notAbove
        rw [if_neg notAbove,some.inj got]

theorem erase_isSome (path : List Name) (children : Children Name Value) :
    (children.erase path).isSome ↔ path ≠ [] ∧ ((Node.directory children).kindAt path).isSome := by
  fun_induction erase path children with
  | case1 children => simp
  | case2 name children =>
    cases got : children.get name <;> simp [Node.kindAt,got]
  | case3 name next path children below got ih =>
    have walked : (Node.directory children).kindAt (name::next::path) =
        (Node.directory below).kindAt (next::path) := by
      rw [Node.kindAt,got,bind_some]
    rw [isSome_map,ih,walked]
    simp
  | case4 name next path children notDirectory =>
    rcases got : children.get name with _ | value | below
    · simp [Node.kindAt,got]
    · simp [Node.kindAt,got]
    · exact absurd got (notDirectory below)

end Children

end

section
variable [LT Name] [LE Name] [Std.IsLinearOrder Name] [Std.LawfulOrderLT Name] {first second : Name}

theorem eq_of_not_lt (below : ¬first < second) (above : ¬second < first) : first = second :=
  Std.le_antisymm (Std.not_lt.mp above) (Std.not_lt.mp below)

theorem lt_or_lt_of_ne (nodup : first ≠ second) : first < second ∨ second < first := by
  by_contra neither
  obtain ⟨below,above⟩ := not_or.mp neither
  exact nodup (eq_of_not_lt below above)

theorem not_lt_of_lt (below : first < second) : ¬second < first :=
  fun above => Std.lt_irrefl (Std.lt_trans below above)

variable [DecidableLT Name]

namespace Children

variable {name : Name} {other : Name}

theorem get_cons_of_ne (nodup : other ≠ name) (node : Node Name Value) (rest : Children Name Value) :
    (cons name node rest).get other = if name < other then rest.get other else none := by
  rcases lt_or_lt_of_ne nodup with below | above
  · simp [get,below]
  · simp [get,above]

variable {name : Name} {node : Node Name Value}

omit [Std.IsLinearOrder Name] in
theorem get_put_self :
    (children : Children Name Value) → (children.put name node).get name = some node
  | nil => by simp [put,get,Std.lt_irrefl]
  | cons other old rest => by
    unfold put
    split
    · rename_i below
      simp [get,below,get_put_self rest]
    · rename_i notBelow
      split
      · simp [get,Std.lt_irrefl]
      · rename_i notAbove
        simp [get,notBelow,notAbove]

theorem get_put_of_ne (nodup : other ≠ name) (node : Node Name Value) :
    (children : Children Name Value) → (children.put name node).get other = children.get other
  | nil => by simp [put,get_cons_of_ne nodup,get]
  | cons first old rest => by
    have ih := get_put_of_ne nodup node rest
    unfold put
    split
    · simp only [get,ih]
    · rename_i notBelow
      split
      · rename_i before
        rw [get_cons_of_ne nodup]
        split
        · rfl
        · -- a smaller name than the new one is smaller than all that follow
          rename_i notAbove
          have smaller := (lt_or_lt_of_ne nodup).resolve_right notAbove
          have beforeFirst := Std.lt_trans smaller before
          simp [get,beforeFirst,not_lt_of_lt beforeFirst]
      · rename_i notBefore
        obtain rfl := eq_of_not_lt notBelow notBefore
        rw [get_cons_of_ne nodup,get_cons_of_ne nodup]

theorem sorted_put (new : node.Sorted) : {children : Children Name Value} →
    children.Sorted → (children.put name node).Sorted
  | nil, _ => ⟨new,by simp [names],trivial⟩
  | cons first old rest, ⟨here,before,there⟩ => by
    unfold put
    split
    · rename_i below
      refine ⟨here,?_,sorted_put new there⟩
      intro other mem
      rcases mem_names_put mem with rfl | kept
      · exact below
      · exact before other kept
    · split
      · rename_i above
        refine ⟨new,?_,here,before,there⟩
        intro other mem
        rcases mem_cons.mp mem with rfl | later
        · exact above
        · exact Std.lt_trans above (before other later)
      · exact ⟨new,before,there⟩

variable {value : Value} {path : List Name} {children changed : Children Name Value}

theorem sorted_insert (sorted : children.Sorted)
    (added : children.insert value path = some changed) : changed.Sorted := by
  fun_induction insert value path children generalizing changed with
  | case1 children | case2 name children below got => exact absurd added (by simp)
  | case3 name children notDirectory =>
    obtain rfl := some.inj added
    exact sorted_put (by trivial) sorted
  | case4 name next path children ih =>
    obtain ⟨below,entered,added⟩ := bind_eq_some_iff.mp added
    obtain ⟨grown,inner,rfl⟩ := map_eq_some_iff.mp added
    have new : (Node.directory grown).Sorted := ih below (sorted_enter sorted entered) inner
    exact sorted_put new sorted

theorem sorted_erase (sorted : children.Sorted) (erased : children.erase path = some changed) :
    changed.Sorted := by
  fun_induction erase path children generalizing changed with
  | case1 children => cases erased
  | case2 name children =>
    obtain ⟨_,_,rfl⟩ := map_eq_some_iff.mp erased
    exact sorted_remove name sorted
  | case3 name next path children below got ih =>
    obtain ⟨inner,taken,rfl⟩ := map_eq_some_iff.mp erased
    have new : (Node.directory inner).Sorted := ih (sorted_get sorted got) taken
    exact sorted_put new sorted
  | case4 name next path children notDirectory => cases erased

variable [DecidableEq Name]

theorem kindAt_put : (Node.directory (children.put name node)).kindAt (other::path) =
      if other = name then node.kindAt path else (Node.directory children).kindAt (other::path) := by
  split_ifs with same
  · rw [same,Node.kindAt,get_put_self,bind_some]
  · rw [Node.kindAt,get_put_of_ne same,Node.kindAt]

/-- An insertion makes the file and the directories above it, and changes nothing else. -/
theorem kindAt_insert (added : children.insert value path = some changed) (other : List Name) :
    (Node.directory changed).kindAt other =
      if other = path then some (.file value)
      else if other <+: path then some .directory
      else (Node.directory children).kindAt other := by
  fun_induction insert value path children generalizing changed other with
  | case1 children | case2 name children below got => exact absurd added (by simp)
  | case3 name children notDirectory =>
    obtain rfl := some.inj added
    cases other with
    | nil => simp [Node.kindAt_nil,Node.kind]
    | cons first other =>
      rw [kindAt_put]
      split
      · rename_i same
        subst same
        cases other with
        | nil => simp [Node.kindAt_nil,Node.kind]
        | cons second other =>
          -- nothing stood below the name, for only a dir has something below
          have nothing : (children.get first).bind (Node.kindAt (second::other)) = none := by
            rw [bind_eq_none_iff]
            rintro (old | below) got
            · rfl
            · exact absurd got (notDirectory below)
          simp [Node.kindAt,nothing]
      · rename_i nodup
        simp [nodup]
  | case4 name next path children ih =>
    obtain ⟨below,entered,added⟩ := bind_eq_some_iff.mp added
    obtain ⟨grown,inner,rfl⟩ := map_eq_some_iff.mp added
    cases other with
    | nil => simp [Node.kindAt_nil,Node.kind]
    | cons first other =>
      rw [kindAt_put]
      split
      · rename_i same
        subst same
        rw [ih below inner]
        cases other with
        | nil => simp
        | cons second other =>
          rw [kindAt_enter entered]
          simp [Node.kindAt]
      · rename_i nodup
        simp [nodup]

theorem fileAt_insert (added : children.insert value path = some changed) :
    (Node.directory changed).fileAt = Function.update (Node.directory children).fileAt path (some value) := by
  have free : ¬(Node.directory children).Clashes path := by
    rw [← insert_eq_none value,added]
    simp
  funext other
  rw [update_apply,Node.fileAt,kindAt_insert added]
  by_cases same : other = path
  · simp [same]
  · rw [if_neg same,if_neg same,Node.fileAt]
    by_cases above : other <+: path
    · -- a dir now, and no file before
      rw [if_pos above]
      rcases old : (Node.directory children).kindAt other with _ | value | _
      · rfl
      · exact absurd (.inl ⟨other,value,above,same,old⟩) free
      · rfl
    · rw [if_neg above]

theorem grown_insert (grown : children.Grown) (added : children.insert value path = some changed) :
    changed.Grown := by
  intro other longer found
  rw [kindAt_insert added] at found
  split at found
  · exact absurd found (by simp)
  · rename_i nodup
    split at found
    · rename_i above
      exact ⟨path,above,nodup,by simp [fileAt_insert added]⟩
    · obtain ⟨file,above,apart,isFile⟩ := grown other longer found
      refine ⟨file,above,apart,?_⟩
      rw [fileAt_insert added,update_apply]
      split
      · rfl
      · exact isFile

end Children

namespace Children

theorem mem_files_cons {name : Name} {path : List Name} {node : Node Name Value}
    {rest : Children Name Value} (before : ∀ other ∈ rest.names, first < other)
    (here : (path,value) ∈ node.files ↔ node.kindAt path = some (.file value))
    (there : (name::path,value) ∈ rest.files ↔
      (Node.directory rest).kindAt (name::path) = some (.file value)) :
    (name::path,value) ∈ (cons first node rest).files ↔
      (Node.directory (cons first node rest)).kindAt (name::path) = some (.file value) := by
  by_cases same : name = first
  · subst same
    have absent : (name::path,value) ∉ rest.files := fun mem =>
      Std.lt_irrefl (before name (mem_names_of_mem_files mem))
    simp [files,absent,here,Node.kindAt,get,Std.lt_irrefl]
  · rw [Node.kindAt] at there ⊢
    rw [get_cons_of_ne same]
    split_ifs with notBelow
    · simp [files,Ne.symm same,there]
    · have absent : (name::path,value) ∉ rest.files := fun mem =>
        notBelow (before name (mem_names_of_mem_files mem))
      simp [files,Ne.symm same,absent]

theorem mem_files (path : List Name) (value : Value) : (children : Children Name Value) → children.Sorted →
    ((path,value) ∈ children.files ↔ (Node.directory children).kindAt path = some (.file value))
  | nil, _ => by cases path <;> simp [files,Node.kindAt,Node.kind,get]
  | cons first (.file old) rest, ⟨_,before,there⟩ => by
    cases path with
    | nil => simp [nil_not_mem_files,Node.kindAt,Node.kind]
    | cons name path =>
      refine mem_files_cons before ?_ (mem_files (name::path) value rest there)
      cases path <;> simp [Node.files,Node.kindAt,Node.kind,eq_comm]
  | cons first (.directory below) rest, ⟨here,before,there⟩ => by
    cases path with
    | nil => simp [nil_not_mem_files,Node.kindAt,Node.kind]
    | cons name path =>
      exact mem_files_cons before (mem_files path value below here) (mem_files (name::path) value rest there)

end Children

namespace Children

variable {name : Name}

theorem get_eq_none_of_before : {children : Children Name Value} →
    (∀ other ∈ children.names, name < other) → children.get name = none
  | nil, _ => rfl
  | cons first node rest, before => by
    have first := before first (by simp [names])
    simp [get,not_lt_of_lt first,first]

theorem get_remove_self : {children : Children Name Value} →
    children.Sorted → (children.remove name).get name = none
  | nil, _ => rfl
  | cons first node rest, ⟨_,before,there⟩ => by
    unfold remove
    split
    · rename_i below
      rw [get,if_pos below]
      exact get_remove_self there
    · rename_i notBelow
      split
      · rename_i above
        rw [get,if_neg notBelow,if_pos above]
      · rename_i notAbove
        obtain rfl := eq_of_not_lt notBelow notAbove
        exact get_eq_none_of_before before

variable {other : Name}

theorem get_remove_of_ne (nodup : other ≠ name) : {children : Children Name Value} →
    children.Sorted → (children.remove name).get other = children.get other
  | nil, _ => rfl
  | cons first node rest, ⟨_,before,there⟩ => by
    unfold remove
    split
    · simp only [get,get_remove_of_ne nodup there]
    · rename_i notBelow
      split
      · rfl
      · rename_i notAbove
        obtain rfl := eq_of_not_lt notBelow notAbove
        rw [get_cons_of_ne nodup]
        split
        · rfl
        · rename_i notAfter
          have smaller := (lt_or_lt_of_ne nodup).resolve_right notAfter
          exact get_eq_none_of_before fun later mem => Std.lt_trans smaller (before later mem)

variable [DecidableEq Name] {children : Children Name Value} {path : List Name}

theorem kindAt_remove (sorted : children.Sorted) :
    (Node.directory (children.remove name)).kindAt (other::path) =
      if other = name then none else (Node.directory children).kindAt (other::path) := by
  split_ifs with same
  · rw [same,Node.kindAt,get_remove_self sorted,bind_none]
  · rw [Node.kindAt,get_remove_of_ne same sorted,Node.kindAt]

theorem kindAt_erase {changed : Children Name Value} (sorted : children.Sorted)
    (erased : children.erase path = some changed) (other : List Name) :
    (Node.directory changed).kindAt other =
      if path <+: other then none else (Node.directory children).kindAt other := by
  fun_induction erase path children generalizing changed other with
  | case1 children => cases erased
  | case2 name children =>
    obtain ⟨node,_,rfl⟩ := map_eq_some_iff.mp erased
    cases other with
    | nil => simp [Node.kindAt_nil,Node.kind]
    | cons first other => simp [kindAt_remove sorted,eq_comm]
  | case3 name next path children below got ih =>
    obtain ⟨inner,taken,rfl⟩ := map_eq_some_iff.mp erased
    have there := sorted_get sorted got
    cases other with
    | nil => simp [Node.kindAt_nil,Node.kind]
    | cons first other =>
      rw [kindAt_put,ih there taken,Node.kindAt]
      by_cases same : first = name
      · simp [same,got]
      · simp [same,Ne.symm same]
  | case4 name next path children notDirectory => cases erased

end Children

end

end Mooon.FileTree

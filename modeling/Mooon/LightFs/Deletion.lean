import Mooon.LightFs.Kinds

/-! Deletions from the tree of a `FileIndexer`. The node is always taken out with all that is below
it; the result is read from the place of the next sibling, behind the last child from the word that
the vector has there. -/
namespace Mooon.LightFs
open FileTree (Node Children Kind)
open List Option

def Names (path : Bytes) (root : INodeDirectory) : Prop :=
  checkPathValid path = true ∧ (getPathNames path).length ≤ kLfsDepthMax ∧
    ((Node.directory root).kindAt (getPathNames path)).isSome = true

def isLastChild (names : List Bytes) (root : INodeDirectory) : Bool :=
  match (Node.directory root).nodeAt names.dropLast with
  | some (.directory children) => children.names.getLast? = names.getLast?
  | _ => false

/-- The call says whether the path named a node; exactly that node and what is below it are gone. -/
def Deleted (path : Bytes) (root : INodeDirectory) (outcome : Use (INodeDirectory × Bool)) : Prop :=
  ∃ changed result, outcome = .ok (changed,result) ∧ (result = true ↔ Names path root) ∧
    (¬Names path root → changed = root) ∧
    (Names path root → ∀ other, (Node.directory changed).kindAt other =
      if getPathNames path <+: other then none else (Node.directory root).kindAt other)

theorem getLastNode_answer {Result : Type} (use : INodeDirectory → INodeDirectory × Result)
    (names : List Bytes) (children : INodeDirectory) :
    ∃ changed, getLastNode use names (.directory children) =
      match (Node.directory children).nodeAt names with
      | some (.directory last) => .ok (some (changed,(use last).2))
      | _ => .ok none := by
  induction names generalizing children with
  | nil => exact ⟨(use children).1,rfl⟩
  | cons name names ih =>
    rw [getLastNode_cons,Node.nodeAt]
    rcases got : children.get name with _ | attri | below
    · exact ⟨children,rfl⟩
    · refine ⟨children,?_⟩
      cases names <;> rfl
    · obtain ⟨changed,walked⟩ := ih below
      refine ⟨children.put name (.directory changed),?_⟩
      dsimp only [bind_some]
      rw [walked]
      rcases (Node.directory below).nodeAt names with _ | attri | last <;> rfl

variable (parents : List Bytes)

theorem nodeAt_append (name : Bytes) (node : INode) :
    node.nodeAt (parents ++ [name]) =
      match node.nodeAt parents with
      | some (.directory children) => children.get name
      | _ => none := by
  induction parents generalizing node with
  | nil =>
    cases node with
    | file attri => rfl
    | directory children =>
      rw [nil_append,Node.nodeAt,Node.nodeAt]
      dsimp only
      cases children.get name <;> rfl
  | cons first parents ih =>
    cases node with
    | file attri => rfl
    | directory children =>
      rw [cons_append,Node.nodeAt,Node.nodeAt]
      cases children.get first with
      | none => rfl
      | some child => exact ih child

theorem findNode_eq (path : Bytes) (root : INodeDirectory) :
    findNode path root = .ok (if checkPathValid path = true ∧ (getPathNames path).length ≤ kLfsDepthMax then
      (Node.directory root).nodeAt (getPathNames path) else none) := by
  unfold findNode
  by_cases valid : checkPathValid path = true
  · rw [if_pos valid]
    by_cases deep : (getPathNames path).length > kLfsDepthMax
    · rw [if_pos deep,if_neg (by omega)]
      rfl
    · rw [if_neg deep,if_pos ⟨valid,by omega⟩]
      cases last : (getPathNames path).getLast? with
      | none =>
        rw [List.getLast?_eq_none_iff.mp last]
        rfl
      | some name =>
        have split := dropLast_append_getLast? _ last
        obtain ⟨changed,walked⟩ := getLastNode_answer (fun children => (children,children.get name))
          (getPathNames path).dropLast root
        have whole := nodeAt_append (getPathNames path).dropLast name (.directory root)
        rw [split] at whole
        dsimp only
        rw [walked,whole]
        rcases (Node.directory root).nodeAt (getPathNames path).dropLast with _ | attri | children <;> rfl
  · rw [if_neg valid,if_neg fun both => valid both.1]
    rfl

variable (name : Bytes) (pastEnd : Bool) (children : INodeDirectory)

theorem removeChild_fst : (removeChild name pastEnd children).1 = (children.erase [name]).getD children := by
  unfold removeChild
  cases got : children.get name <;> simp [Children.erase,got]

theorem removeChild_snd : (removeChild name pastEnd children).2 =
      ((children.get name).isSome && (!decide (children.names.getLast? = some name) || pastEnd)) := by
  unfold removeChild
  cases children.get name with
  | none => rfl
  | some node => by_cases last : children.names.getLast? = some name <;> simp [last]

variable (root : INodeDirectory)

theorem getLastNode_removeChild :
    getLastNode (removeChild name pastEnd) parents (.directory root) =
      match (Node.directory root).nodeAt parents with
      | some (.directory children) =>
        .ok (some ((root.erase (parents ++ [name])).getD root,(removeChild name pastEnd children).2))
      | _ => .ok none := by
  induction parents generalizing root with
  | nil =>
    rw [nil_append,← removeChild_fst name pastEnd]
    rfl
  | cons first parents ih =>
    rw [getLastNode_cons,Node.nodeAt]
    rcases got : root.get first with _ | attri | below
    · rfl
    · cases parents <;> rfl
    · dsimp only [bind_some]
      rw [ih below]
      rcases (Node.directory below).nodeAt parents with _ | attri | children
      · rfl
      · rfl
      · have erased : root.erase (first :: parents ++ [name]) =
            (below.erase (parents ++ [name])).map fun changed => root.put first (.directory changed) := by
          cases parents <;> simp [Children.erase,got]
        rw [erased]
        cases below.erase (parents ++ [name]) with
        | some changed => rfl
        | none =>
          -- nothing is taken out, and the same dir is put back
          have same := Children.put_get got
          simp [Except.map,same]

variable {path : Bytes}

theorem delNode_unnamed (unnamed : nodeNames path = none) (pastEnd : Bool) (root : INodeDirectory) :
    delNode path pastEnd root = .ok (root,false) := by
  simp only [delNode,unnamed]
  rfl

theorem delNode_eq (named : (nodeNames path).isSome = true) (pastEnd : Bool) (root : INodeDirectory) :
    delNode path pastEnd root = .ok ((root.erase (getPathNames path)).getD root,
      (root.erase (getPathNames path)).isSome && (!isLastChild (getPathNames path) root || pastEnd)) := by
  obtain ⟨⟨parents,name⟩,named⟩ := Option.isSome_iff_exists.mp named
  have names := nodeNames_spec named
  have there : (root.erase (parents ++ [name])).isSome =
      ((Node.directory root).nodeAt (parents ++ [name])).isSome := by
    rw [Bool.eq_iff_iff,Children.erase_isSome,Node.kindAt_eq_nodeAt]
    simp
  rw [nodeAt_append] at there
  simp only [delNode,named]
  rw [getLastNode_removeChild,names,isLastChild,dropLast_concat,getLast?_concat]
  have absent (none : (root.erase (parents ++ [name])).isSome = false) :
      root.erase (parents ++ [name]) = .none := by
    simpa using none
  generalize (Node.directory root).nodeAt parents = parent at there ⊢
  rcases parent with _ | attri | children
  · rw [absent there]
    rfl
  · rw [absent there]
    rfl
  · dsimp only at there ⊢
    rw [removeChild_snd,there]
    rfl

theorem deleted_iff_result {root changed : INodeDirectory} (sorted : root.Sorted)
    (erased : root.erase (getPathNames path) = some changed) (names : Names path root) (res : Bool) :
    Deleted path root (.ok (changed,res)) ↔ res = true := by
  constructor
  · rintro ⟨_,_,same,answer,_,_⟩
    cases same
    exact answer.mpr names
  · intro yes
    exact ⟨changed,res,rfl,iff_of_true yes names,fun unnamed => absurd names unnamed,
      fun _ other => Children.kindAt_erase sorted erased other⟩

theorem deleted_iff_unnamed {root : INodeDirectory} : Deleted path root (.ok (root,false)) ↔
    ¬Names path root := by
  constructor
  · rintro ⟨_,_,same,answer,_,_⟩ names
    cases same
    exact Bool.false_ne_true (answer.mpr names)
  · intro unnamed
    exact ⟨root,false,rfl,iff_of_false Bool.false_ne_true unnamed,fun _ => rfl,
      fun names => absurd names unnamed⟩

/-- A deletion does what it says exactly when it is not one of the root, and not one of a last child
behind which the vector has a null pointer. -/
theorem deleted_iff (root : INodeDirectory) (sorted : root.Sorted) (path : Bytes) (pastEnd : Bool) :
    Deleted path root (delNode path pastEnd root) ↔
      (Names path root → getPathNames path ≠ [] ∧
        (isLastChild (getPathNames path) root = true → pastEnd = true)) := by
  cases named : (nodeNames path).isSome with
  | false =>
    have unnamed : nodeNames path = none := by simpa using named
    rw [delNode_unnamed unnamed,deleted_iff_unnamed]
    constructor
    · intro nothing names
      exact absurd names nothing
    · intro allowed names
      have some := (nodeNames_isSome path).mpr ⟨names.1,names.2.1,(allowed names).1⟩
      rw [named] at some
      cases some
  | true =>
    obtain ⟨valid,short,longer⟩ := (nodeNames_isSome path).mp named
    rw [delNode_eq named]
    cases erased : root.erase (getPathNames path) with
    | none =>
      have unnamed : ¬Names path root := by
        intro names
        have some := (Children.erase_isSome _ root).mpr ⟨longer,names.2.2⟩
        rw [erased] at some
        cases some
      exact iff_of_true (deleted_iff_unnamed.mpr unnamed) fun names => absurd names unnamed
    | some changed =>
      have names : Names path root :=
        ⟨valid,short,((Children.erase_isSome _ root).mp (by rw [erased]; rfl)).2⟩
      rw [getD_some,deleted_iff_result sorted erased names]
      cases isLastChild (getPathNames path) root <;> simp [names,longer]

theorem step_sorted {root : INodeDirectory} {action : Action} (sorted : root.Sorted)
    (clear : ¬Requires root action) : (step root action).1.Sorted := by
  cases action with
  | addNode path attri =>
    simp only [step]
    cases added : addNode path attri root with
    | error cause => exact absurd (by simp [step,added,changedBy]) ((sound_iff.mpr clear).1 cause)
    | ok res => exact addNode_sorted sorted added
  | delNode path pastEnd =>
    simp only [step]
    cases named : (nodeNames path).isSome with
    | false => simpa [delNode_unnamed (by simpa using named),changedBy] using sorted
    | true =>
      rw [delNode_eq named]
      cases erased : root.erase (getPathNames path) with
      | none => exact sorted
      | some changed => exact Children.sorted_erase sorted erased
  | findNode path =>
    obtain ⟨res,gave⟩ := findNode_returns path root
    simpa [step,gave,readBy] using sorted
  | listFiles path =>
    obtain ⟨res,gave⟩ := listFiles_returns path root
    simpa [step,gave,readBy] using sorted

/-- In every run without a clash the children of every directory stay in the order of their names. -/
theorem tree_sorted (acts : List Action)
    (clear : Run.Meets (fun root action => ¬Requires root action) step .nil acts) :
    (Run.final step .nil acts).Sorted :=
  Run.invariant Children.Sorted (fun _ _ => step_sorted) _ acts trivial clear

theorem clear_of_insert {root changed : INodeDirectory} {attri : FileAttribute}
    (inserted : root.insert attri (getPathNames path) = some changed) :
    ¬Requires root (.addNode path attri) := by
  rintro ⟨_,clashes⟩
  rw [(Children.insert_eq_none attri _ root).mpr clashes] at inserted
  cases inserted

theorem tree_sorted_three : (Run.final step .nil
    [.addNode [47,98] ⟨1,2⟩,.addNode [47,97,47,99] ⟨3,4⟩,.addNode [47,97,47,98] ⟨5,6⟩,
      .delNode [47,98] true]).Sorted :=
  tree_sorted _ ⟨clear_of_insert rfl,clear_of_insert rfl,clear_of_insert rfl,id,trivial⟩

def twoFiles : INodeDirectory := .cons [97] (.file ⟨1,2⟩) (.cons [98] (.file ⟨3,4⟩) .nil)

theorem twoFiles_sorted : twoFiles.Sorted := by
  refine ⟨trivial,?_,trivial,?_,trivial⟩
  · intro other mem
    obtain rfl : other = [98] := by simpa [Children.names] using mem
    decide
  · intro other mem
    cases mem

/-- Every path but the root's is deleted as asked: `erase` leaves the removed pointer behind the end
of the vector. -/
theorem delNode_deleted (root : INodeDirectory) (sorted : root.Sorted) (path : Bytes)
    (below : checkPathValid path = true → getPathNames path ≠ []) :
    Deleted path root (delNode path true root) :=
  (deleted_iff root sorted path true).mpr fun names => ⟨below names.1,fun _ => rfl⟩

theorem delNode_deleted_last : delNode [47,98] true twoFiles = .ok (.cons [97] (.file ⟨1,2⟩) .nil,true) ∧
    Deleted [47,98] twoFiles (delNode [47,98] true twoFiles) :=
  ⟨rfl,delNode_deleted twoFiles twoFiles_sorted [47,98] (by decide)⟩

theorem root_not_deleted : Names [47] twoFiles ∧ ¬ Deleted [47] twoFiles (delNode [47] true twoFiles) := by
  have names : Names [47] twoFiles := ⟨by decide,by decide,by decide⟩
  exact ⟨names,fun deleted => deleted_iff_unnamed.mp deleted names⟩

end Mooon.LightFs

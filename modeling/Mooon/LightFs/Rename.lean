import Mooon.LightFs.Deletion

/-! Renaming a file of a `FileIndexer`: it is deleted and added again. What the deletion did is not
undone when the addition fails. The locks, which the calls take one inside the other, are left out.
-/
namespace Mooon.LightFs
open List
open FileTree (Node Children Kind)

def renameNode (oldPath newPath : Bytes) (pastEnd : Bool)
    (root : INodeDirectory) : Use (INodeDirectory × Bool) := do
  match ← findNode oldPath root with
  | none => return (root,false)
  | some (.directory _) => return (root,false)
  | some (.file attri) =>
    let (changed,deleted) ← delNode oldPath pastEnd root
    if !deleted then return (changed,false)
    else addNode newPath attri changed

/-- A call that returns false changes nothing; after one that returns true the old path is gone, the
new one is a file with the old attributes, and every other path is what it was. -/
def Atomic (oldPath newPath : Bytes) (root : INodeDirectory) (outcome : Use (INodeDirectory × Bool)) : Prop :=
  ∃ changed result, outcome = .ok (changed,result) ∧ (result = false → changed = root) ∧
    (result = true → ∃ attri, (Node.directory root).kindAt (getPathNames oldPath) = some (.file attri) ∧
      (Node.directory changed).kindAt (getPathNames oldPath) = none ∧
      (Node.directory changed).kindAt (getPathNames newPath) = some (.file attri) ∧
      ∀ other, other ≠ getPathNames oldPath → other ≠ getPathNames newPath →
        (Node.directory changed).kindAt other = (Node.directory root).kindAt other)

def NamesFile (path : Bytes) (root : INodeDirectory) (attri : FileAttribute) : Prop :=
  checkPathValid path = true ∧ (getPathNames path).length ≤ kLfsDepthMax ∧
    (Node.directory root).kindAt (getPathNames path) = some (.file attri)

/-- The new path is a valid one, not the old one, and names a place in a directory that is there,
where no directory stands. -/
structure Receives (root : INodeDirectory) (oldPath newPath : Bytes) : Prop where
  named : (nodeNames newPath).isSome = true
  moved : getPathNames newPath ≠ getPathNames oldPath
  parent : (Node.directory root).kindAt (getPathNames newPath).dropLast = some .directory
  place : (Node.directory root).kindAt (getPathNames newPath) ≠ some .directory

section
variable {oldPath newPath : Bytes} {pastEnd : Bool} {root : INodeDirectory} {attri : FileAttribute}

theorem nodeAt_file {names : List Bytes} {node : INode}
    (found : node.kindAt names = some (.file attri)) : node.nodeAt names = some (.file attri) := by
  rw [Node.kindAt_eq_nodeAt] at found
  obtain ⟨node,there,kind⟩ := Option.map_eq_some_iff.mp found
  rw [there]
  cases node with
  | file value =>
    cases kind
    rfl
  | directory children => cases kind

theorem renameNode_file (file : NamesFile oldPath root attri) :
    ∃ erased, root.erase (getPathNames oldPath) = some erased ∧ renameNode oldPath newPath pastEnd root =
        if isLastChild (getPathNames oldPath) root = true ∧ pastEnd = false then .ok (erased,false)
        else addNode newPath attri erased := by
  obtain ⟨valid,short,found⟩ := file
  have longer : getPathNames oldPath ≠ [] := by
    intro empty
    rw [empty] at found
    cases found
  have named := (nodeNames_isSome oldPath).mpr ⟨valid,short,longer⟩
  have there :=
    (Children.erase_isSome _ root).mpr ⟨longer,by rw [found]; rfl⟩
  obtain ⟨erased,taken⟩ := Option.isSome_iff_exists.mp there
  refine ⟨erased,taken,?_⟩
  unfold renameNode
  rw [findNode_eq,if_pos ⟨valid,short⟩,nodeAt_file found,delNode_eq named,taken]
  cases isLastChild (getPathNames oldPath) root <;> cases pastEnd <;> rfl

theorem renameNode_refused (none : ∀ attri, ¬NamesFile oldPath root attri) :
    renameNode oldPath newPath pastEnd root = .ok (root,false) := by
  unfold renameNode
  rw [findNode_eq]
  split_ifs with valid
  · rcases found : (Node.directory root).nodeAt (getPathNames oldPath) with _ | attri | children
    · rfl
    · have file : (Node.directory root).kindAt (getPathNames oldPath) = some (.file attri) := by
        rw [Node.kindAt_eq_nodeAt,found]
        rfl
      exact absurd ⟨valid.1,valid.2,file⟩ (none attri)
    · rfl
  · rfl

variable {attri : FileAttribute} {erased : INodeDirectory}

theorem kindAt_erase_file (sorted : root.Sorted) (taken : root.erase (getPathNames oldPath) = some erased)
    (found : (Node.directory root).kindAt (getPathNames oldPath) = some (.file attri)) (other : List Bytes) :
    (Node.directory erased).kindAt other =
      if other = getPathNames oldPath then none else (Node.directory root).kindAt other := by
  rw [Children.kindAt_erase sorted taken]
  by_cases same : other = getPathNames oldPath
  · rw [same,if_pos prefix_rfl,if_pos rfl]
  · rw [if_neg same]
    by_cases below : getPathNames oldPath <+: other
    · rw [if_pos below]
      -- nothing stands below a file
      cases there : (Node.directory root).kindAt other with
      | none => rfl
      | some kind =>
        have above := Node.kindAt_above there below (Ne.symm same)
        rw [found] at above
        cases above
    · rw [if_neg below]

variable {above : List Bytes}

theorem prefix_dropLast {path : List Bytes} (shorter : above <+: path) (nodup : above ≠ path) :
    above <+: path.dropLast := by
  obtain ⟨rest,rfl⟩ := shorter
  have longer : rest ≠ [] := by
    rintro rfl
    exact nodup (append_nil above).symm
  rw [dropLast_append_of_ne_nil longer]
  exact prefix_append above rest.dropLast

theorem kindAt_ancestor (receives : Receives root oldPath newPath)
    (shorter : above <+: getPathNames newPath) (nodup : above ≠ getPathNames newPath) :
    (Node.directory root).kindAt above = some .directory := by
  have within := prefix_dropLast shorter nodup
  by_cases same : above = (getPathNames newPath).dropLast
  · rw [same]
    exact receives.parent
  · exact Node.kindAt_above receives.parent within same

section
variable (sorted : root.Sorted)
include sorted

section
variable (taken : root.erase (getPathNames oldPath) = some erased)
include taken

section
variable (found : (Node.directory root).kindAt (getPathNames oldPath) = some (.file attri))
include found

theorem insert_receives
    (receives : Receives root oldPath newPath) :
    ∃ changed, erased.insert attri (getPathNames newPath) = some changed := by
  rw [← Option.ne_none_iff_exists',Ne,Children.insert_eq_none]
  rintro (⟨above,value,shorter,nodup,file⟩ | dir)
  · rw [kindAt_erase_file sorted taken found] at file
    split at file
    · cases file
    · rw [kindAt_ancestor receives shorter nodup] at file
      cases file
  · rw [kindAt_erase_file sorted taken found,if_neg receives.moved] at dir
    exact receives.place dir

theorem kindAt_renamed {changed : INodeDirectory}
    (added : erased.insert attri (getPathNames newPath) = some changed) (other : List Bytes) :
    (Node.directory changed).kindAt other =
      if other = getPathNames newPath then some (.file attri)
      else if other <+: getPathNames newPath then some .directory
      else if other = getPathNames oldPath then none else (Node.directory root).kindAt other := by
  rw [Children.kindAt_insert added,kindAt_erase_file sorted taken found]

theorem erased_ne : erased ≠ root := by
  rintro rfl
  have gone := kindAt_erase_file sorted taken found (getPathNames oldPath)
  rw [found,if_pos rfl] at gone
  cases gone

theorem atomic_of_receives
    (receives : Receives root oldPath newPath) :
    Atomic oldPath newPath root (addNode newPath attri erased) := by
  obtain ⟨changed,added⟩ := insert_receives sorted taken found receives
  have kinds := kindAt_renamed sorted taken found added
  have apart : ¬getPathNames oldPath <+: getPathNames newPath := by
    intro shorter
    have above := kindAt_ancestor receives shorter (Ne.symm receives.moved)
    rw [found] at above
    cases above
  refine ⟨changed,true,addNode_eq_true.mpr ⟨receives.named,added⟩,(Bool.noConfusion ·),fun _ => ?_⟩
  refine ⟨attri,found,?_,?_,?_⟩
  · rw [kinds,if_neg (Ne.symm receives.moved),if_neg apart,if_pos rfl]
  · rw [kinds,if_pos rfl]
  · intro other notOld notNew
    rw [kinds,if_neg notNew,if_neg notOld]
    by_cases above : other <+: getPathNames newPath
    · rw [if_pos above,kindAt_ancestor receives above notNew]
    · rw [if_neg above]

theorem receives_of_atomic
    (atomic : Atomic oldPath newPath root (addNode newPath attri erased)) :
    Receives root oldPath newPath := by
  obtain ⟨changed,res,added,refused,renamed⟩ := atomic
  cases res with
  | false =>
    have same := addNode_eq_false added
    rw [refused rfl] at same
    exact absurd same.symm (erased_ne sorted taken found)
  | true =>
    obtain ⟨named,inserted⟩ := addNode_eq_true.mp added
    obtain ⟨value,_,gone,_,kept⟩ := renamed rfl
    have longer := ((nodeNames_isSome newPath).mp named).2.2
    have kinds := kindAt_renamed sorted taken found inserted
    have free : ¬(Node.directory erased).Clashes (getPathNames newPath) := by
      rw [← Children.insert_eq_none attri,inserted]
      simp
    have moved : getPathNames newPath ≠ getPathNames oldPath := by
      intro same
      rw [kinds,if_pos same.symm] at gone
      cases gone
    have shorter : (getPathNames newPath).dropLast ≠ getPathNames newPath := by
      intro same
      have size := congrArg length same
      have pos := length_pos_iff.mpr longer
      rw [length_dropLast] at size
      omega
    have parent : (Node.directory changed).kindAt (getPathNames newPath).dropLast = some .directory := by
      rw [kinds,if_neg shorter,if_pos ( dropLast_prefix _)]
    have apart : (getPathNames newPath).dropLast ≠ getPathNames oldPath := by
      intro same
      rw [same,gone] at parent
      cases parent
    refine ⟨named,moved,?_,?_⟩
    · rw [← kept _ apart shorter]
      exact parent
    · intro dir
      apply free
      right
      rw [kindAt_erase_file sorted taken found,if_neg moved]
      exact dir

end

end

end

end

/-- A renaming is atomic exactly when the old path names no file, or when its deletion reports it
and the new path can receive it. -/
theorem rename_atomic_iff (root : INodeDirectory) (sorted : root.Sorted) (oldPath newPath : Bytes)
    (pastEnd : Bool) : Atomic oldPath newPath root (renameNode oldPath newPath pastEnd root) ↔
      ((∃ attri, NamesFile oldPath root attri) →
        (isLastChild (getPathNames oldPath) root = true → pastEnd = true) ∧
          Receives root oldPath newPath) := by
  by_cases file : ∃ attri, NamesFile oldPath root attri
  · obtain ⟨attri,file⟩ := file
    obtain ⟨erased,taken,renamed⟩ := renameNode_file file
    rw [renamed]
    by_cases denied : isLastChild (getPathNames oldPath) root = true ∧ pastEnd = false
    · rw [if_pos denied]
      refine iff_of_false ?_ ?_
      · rintro ⟨changed,result,same,refused,_⟩
        cases same
        exact erased_ne sorted taken file.2.2 (refused rfl)
      · intro allowed
        have impossible := (allowed ⟨attri,file⟩).1 denied.1
        rw [denied.2] at impossible
        cases impossible
    · rw [if_neg denied]
      constructor
      · intro atomic _
        refine ⟨fun last => ?_,receives_of_atomic sorted taken file.2.2 atomic⟩
        by_contra past
        exact denied ⟨last,Bool.eq_false_iff.mpr past⟩
      · intro allowed
        exact atomic_of_receives sorted taken file.2.2 (allowed ⟨attri,file⟩).2
  · have none : ∀ attri, ¬NamesFile oldPath root attri := fun attri found => file ⟨attri,found⟩
    rw [renameNode_refused none]
    refine iff_of_true ?_ fun found => absurd found file
    exact ⟨root,false,rfl,fun _ => rfl,(Bool.noConfusion ·)⟩

theorem rename_atomic_sibling : Atomic [47,97] [47,99] twoFiles (renameNode [47,97] [47,99] false twoFiles) :=
  (rename_atomic_iff twoFiles twoFiles_sorted [47,97] [47,99] false).mpr fun _ =>
    ⟨by decide,by decide,by decide,by decide,by decide⟩

theorem rename_loses_file :
    renameNode [47,97] [] true twoFiles = .ok (.cons [98] (.file ⟨3,4⟩) .nil,false) := rfl

end Mooon.LightFs

import Mooon.LightFs.FileIndexer

/-! Files and directories in the calls of a `FileIndexer`. Adding a node inserts a file into the
tree, and is undefined where the tree has a file above its place or a directory in it. The
other calls test each node before they use it. -/
namespace Mooon.LightFs
open Option
open FileTree (Node Children Kind)

theorem toOption_bind {First Second : Type} {first : Use First} {second : First → Use Second} :
    (first >>= second).toOption = first.toOption.bind (fun value => (second value).toOption) := by
  cases first <;> rfl

theorem toOption_eq_some {Value : Type} {res : Use Value} {value : Value} :
    res.toOption = some value ↔ res = .ok value := by
  cases res <;> simp [Except.toOption]

theorem nodeNames_isSome (path : Bytes) : (nodeNames path).isSome ↔
      checkPathValid path = true ∧ (getPathNames path).length ≤ kLfsDepthMax ∧ getPathNames path ≠ [] := by
  unfold nodeNames
  by_cases valid : checkPathValid path = true
  · by_cases deep : (getPathNames path).length > kLfsDepthMax
    · simp [Nat.not_le_of_lt deep]
    · simp [valid,deep,Nat.le_of_not_lt deep]
  · simp [valid]

variable {use : INodeDirectory → Use INodeDirectory} {names : List Bytes}

theorem makeParentDirs_file {attri : FileAttribute} :
    makeParentDirs use names (.file attri) = .error .fileAsDirectory := by
  cases names <;> rfl

theorem makeParentDirs_cons {name : Bytes}
    {children : INodeDirectory} : makeParentDirs use (name::names) (.directory children) = do
      let changed ← makeParentDirs use names ((children.get name).getD (.directory .nil))
      return changed.map (fun below => children.put name (.directory below)) := by
  rw [makeParentDirs]
  cases got : children.get name <;> simp [got,asDirectory,isDirectory,bind,Except.bind]

variable {name : Bytes} {attri : FileAttribute} {children : INodeDirectory}

theorem addChild_insert : (addChild name attri children).toOption = children.insert attri [name] := by
  simp only [addChild,Children.insert]
  rcases children.get name with _ | _ | _ <;> rfl

variable {parents : List Bytes} {root : INodeDirectory}

theorem makeParentDirs_insert :
    (makeParentDirs (addChild name attri) parents (.directory root)).toOption =
      (root.insert attri (parents ++ [name])).map some := by
  induction parents generalizing root with
  | nil =>
    change (addChild name attri root >>= fun changed => Except.ok (some changed)).toOption = _
    rw [toOption_bind,addChild_insert]
    exact (map_eq_bind ..).symm
  | cons first parents ih =>
    have longer : parents ++ [name] ≠ [] := by simp
    rw [List.cons_append,Children.insert_cons _ _ longer,makeParentDirs_cons,toOption_bind]
    have lifted : ∀ inner : Option INodeDirectory, ((inner.map some).bind fun changed =>
        (pure (changed.map fun below => root.put first (.directory below)) : Use _).toOption) =
          (inner.map fun below => root.put first (.directory below)).map some := by
      rintro (_ | below) <;> rfl
    unfold Children.enter
    rcases root.get first with _ | old | below
    · rw [getD_none,ih]
      exact lifted _
    · rw [getD_some,makeParentDirs_file]
      rfl
    · rw [getD_some,ih]
      exact lifted _

variable {Result : Type}

section
variable (use : INodeDirectory → INodeDirectory × Result)

theorem getLastNode_cons (name : Bytes)
    (names : List Bytes) (children : INodeDirectory) :
    getLastNode use (name::names) (.directory children) =
      match children.get name with
      | some (.directory below) => (getLastNode use names (.directory below)).map (fun used =>
          used.map (fun inner => (children.put name (.directory inner.1),inner.2)))
      | _ => .ok none := by
  simp only [getLastNode,asDirectory]
  rcases got : children.get name with _ | old | below
  · simp [got,bind,Except.bind,pure,Except.pure]
  · simp [got,isDirectory,bind,Except.bind,pure,Except.pure]
  · simp only [got,bind,Except.bind]
    cases getLastNode use names (.directory below) <;> rfl

theorem getLastNode_returns (names : List Bytes)
    (children : INodeDirectory) : ∃ used, getLastNode use names (.directory children) = .ok used := by
  induction names generalizing children with
  | nil => exact ⟨_,rfl⟩
  | cons name names ih =>
    rw [getLastNode_cons]
    split
    · rename_i below _
      obtain ⟨used,inner⟩ := ih below
      exact ⟨_,by rw [inner]; rfl⟩
    · exact ⟨none,rfl⟩

end

variable {path : Bytes}

theorem nodeNames_spec (named : nodeNames path = some (parents,name)) :
    getPathNames path = parents ++ [name] := by
  simp only [nodeNames] at named
  split at named
  · split at named
    · exact absurd named (by simp)
    · obtain ⟨last,found,same⟩ := map_eq_some_iff.mp named
      obtain ⟨rfl,rfl⟩ := Prod.mk.inj same
      exact (List.dropLast_append_getLast? _ found).symm
  · exact absurd named (by simp)

def Requires (root : INodeDirectory) : Action → Prop
  | .addNode path _ => (nodeNames path).isSome ∧ (Node.directory root).Clashes (getPathNames path)
  | _ => False

/-- No node is used as what it is not, and an addition that would have to is refused. -/
def Sound (root : INodeDirectory) (action : Action) : Prop :=
  (∀ cause, (step root action).2 ≠ .undefined cause) ∧
    (Requires root action → step root action = (root,.returned false))

theorem addNode_eq (named : nodeNames path = some (parents,name)) (attri : FileAttribute)
    (root : INodeDirectory) :
    (addNode path attri root).toOption = (root.insert attri (getPathNames path)).map (·,true) := by
  rw [nodeNames_spec named]
  simp only [addNode,named]
  rw [toOption_bind,makeParentDirs_insert]
  cases root.insert attri (parents ++ [name]) <;> rfl

theorem addNode_unnamed (unnamed : nodeNames path = none) (attri : FileAttribute)
    (root : INodeDirectory) : addNode path attri root = .ok (root,false) := by
  simp only [addNode,unnamed]
  rfl

variable {changed : INodeDirectory}

theorem addNode_eq_true : addNode path attri root = .ok (changed,true) ↔
      (nodeNames path).isSome ∧ root.insert attri (getPathNames path) = some changed := by
  cases named : nodeNames path with
  | none => simp [addNode_unnamed named]
  | some names => simp [← toOption_eq_some,addNode_eq named]

theorem addNode_eq_false
    (refused : addNode path attri root = .ok (changed,false)) : changed = root := by
  cases named : nodeNames path with
  | none =>
    rw [addNode_unnamed named] at refused
    cases refused
    rfl
  | some names =>
    rw [← toOption_eq_some,addNode_eq named] at refused
    exact absurd refused (by simp)

section
variable (path : Bytes)

theorem delNode_returns (pastEnd : Bool) (root : INodeDirectory) :
    ∃ res, delNode path pastEnd root = .ok res := by
  unfold delNode
  split
  · exact ⟨_,rfl⟩
  · rename_i parents name _
    obtain ⟨used,walked⟩ := getLastNode_returns (removeChild name pastEnd) parents root
    rw [walked]
    cases used <;> exact ⟨_,rfl⟩

theorem findNode_returns (root : INodeDirectory) : ∃ res, findNode path root = .ok res := by
  simp only [findNode]
  split
  · split
    · exact ⟨_,rfl⟩
    · split
      · exact ⟨_,rfl⟩
      · rename_i name _
        obtain ⟨used,walked⟩ := getLastNode_returns (fun children => (children,children.get name))
          (getPathNames path).dropLast root
        rw [walked]
        cases used <;> exact ⟨_,rfl⟩
  · exact ⟨_,rfl⟩

theorem listFiles_returns (root : INodeDirectory) : ∃ res, listFiles path root = .ok res := by
  simp only [listFiles]
  split
  · split
    · exact ⟨_,rfl⟩
    · obtain ⟨used,walked⟩ :=
        getLastNode_returns (fun children => (children,children.toList)) (getPathNames path) root
      rw [walked]
      cases used <;> exact ⟨_,rfl⟩
  · exact ⟨_,rfl⟩

theorem addNode_sound_iff (attri : FileAttribute) (root : INodeDirectory) :
    Sound root (.addNode path attri) ↔ ¬Requires root (.addNode path attri) := by
  cases named : nodeNames path with
  | none => simp [Sound,Requires,step,addNode_unnamed named,changedBy,named]
  | some names =>
    have equation := addNode_eq named attri root
    simp only [Sound,Requires,step,named,← Children.insert_eq_none attri]
    cases added : addNode path attri root with
    | error cause =>
      have refused : root.insert attri (getPathNames path) = none := by
        simpa [added,Except.toOption] using equation.symm
      simp [changedBy,refused]
    | ok res =>
      obtain ⟨changed,inserted,rfl⟩ : ∃ changed, root.insert attri (getPathNames path) = some changed ∧
          (changed,true) = res := by
        simpa [added,Except.toOption] using equation.symm
      simp [changedBy]

end

variable {root : INodeDirectory} {action : Action}

theorem sound_iff : Sound root action ↔ ¬Requires root action := by
  cases action with
  | addNode path attri => exact addNode_sound_iff path attri root
  | delNode path pastEnd =>
    obtain ⟨res,gave⟩ := delNode_returns path pastEnd root
    simp [Sound,Requires,step,gave,changedBy]
  | findNode path =>
    obtain ⟨res,gave⟩ := findNode_returns path root
    simp [Sound,step,gave,readBy]
  | listFiles path =>
    obtain ⟨res,gave⟩ := listFiles_returns path root
    simp [Sound,step,gave,readBy]

theorem kinds_kept_iff (actions : List Action) :
    Run.Meets Sound step .nil actions ↔
      Run.Meets (fun root action => ¬Requires root action) step .nil actions := by
  have same : Sound = fun root action => ¬Requires root action := by
    funext root action
    exact propext sound_iff
  rw [same]

theorem clashes_undefined : (Run.outputs step .nil [.addNode [47,97] ⟨1,2⟩,.addNode [47,97,47,98] ⟨3,4⟩] =
        [.returned true,.undefined .fileAsDirectory] ∧
      ¬Run.Meets Sound step .nil [.addNode [47,97] ⟨1,2⟩,.addNode [47,97,47,98] ⟨3,4⟩]) ∧
      Run.outputs step .nil [.addNode [47,97,47,98] ⟨1,2⟩,.addNode [47,97] ⟨3,4⟩] =
        [.returned true,.undefined .directoryAsFile] ∧
      ¬Run.Meets Sound step .nil [.addNode [47,97,47,98] ⟨1,2⟩,.addNode [47,97] ⟨3,4⟩] :=
  ⟨⟨rfl,fun sound => sound.2.1.1 _ rfl⟩,rfl,fun sound => sound.2.1.1 _ rfl⟩

theorem addNode_sorted {res : Bool} (sorted : root.Sorted)
    (added : addNode path attri root = .ok (changed,res)) : changed.Sorted := by
  cases res with
  | false => exact addNode_eq_false added ▸ sorted
  | true => exact Children.sorted_insert sorted (addNode_eq_true.mp added).2

end Mooon.LightFs

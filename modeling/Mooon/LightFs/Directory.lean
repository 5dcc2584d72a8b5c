import Mooon.LightFs.FileIndexer
import Mathlib.Data.List.Pairwise
import Mathlib.Data.List.InsertIdx
import Mathlib.Logic.Function.Basic

/-! The vector of an `INodeDirectory`. One search serves every call: its result is the place of the
child, or below zero the place where it would be; an `int` is taken to hold it. -/
namespace Mooon.LightFs.Directory
open List

structure INode where
  name : Bytes
  directory : Bool
  address : Nat
deriving DecidableEq

abbrev Vector := List INode

/-- `std::lower_bound` promises its result only for children that are partitioned by the name. -/
structure Library where
  lowerBound : Bytes → Vector → Nat
  partitioned : ∀ name before after, (∀ child ∈ before, child.name < name) →
    (∀ child ∈ after, ¬child.name < name) → lowerBound name (before ++ after) = before.length

section
variable (library : Library) (name : Bytes) (children : Vector)

def binarySearch : Int :=
  let first := library.lowerBound name children
  if children[first]?.any (fun child => ¬name < child.name) then first else -first - 1

def getChild : Option INode :=
  let low := binarySearch library name children
  if low ≥ 0 then children[low.toNat]? else none

/-- `add_sub_dir` and `add_child`, with the address that `new` returns. -/
def add (directory : Bool) (address : Nat) : Vector × Option INode :=
  let low := binarySearch library name children
  if low ≥ 0 then (children,children[low.toNat]?)
  else (children.insertIdx (-low - 1).toNat ⟨name,directory,address⟩,some ⟨name,directory,address⟩)

def removeChild : Vector :=
  let low := binarySearch library name children
  if low ≥ 0 then children.eraseIdx low.toNat else children

end

inductive Action where
  | add (directory : Bool) (name : Bytes) (address : Nat)
  | getChild (name : Bytes)
  | removeChild (name : Bytes)

-- what `remove_child` returns is in the model of the whole tree
def step (library : Library) (children : Vector) : Action → Vector × Option INode
  | .add directory name address => add library name children directory address
  | .getChild name => (children,getChild library name children)
  | .removeChild name => (removeChild library name children,none)

/-- What the directory is for: a map from names to children. -/
def mapStep (map : Bytes → Option INode) : Action → (Bytes → Option INode) × Option INode
  | .add directory name address =>
    let node := (map name).getD ⟨name,directory,address⟩
    (Function.update map name (some node),some node)
  | .getChild name => (map,map name)
  | .removeChild name => (Function.update map name none,none)

abbrev Sorted (children : Vector) : Prop := children.Pairwise (·.name < ·.name)

def Holds (children : Vector) (map : Bytes → Option INode) : Prop :=
  Sorted children ∧ ∀ name node, map name = some node ↔ node ∈ children ∧ node.name = name

/-- The child of this name between the smaller ones and the larger ones. -/
structure Splits (name : Bytes) (before : Vector) (found : Option INode) (after : Vector) : Prop where
  smaller : ∀ child ∈ before, child.name < name
  named : ∀ child ∈ found, child.name = name
  larger : ∀ child ∈ after, name < child.name

variable {name : Bytes} {children before after : Vector} {found : Option INode}

theorem splits (name : Bytes) (sorted : Sorted children) :
    ∃ before found after, children = before ++ (found.toList ++ after) ∧
      Splits name before found after := by
  induction children with
  | nil => exact ⟨[],none,[],rfl,by simp,by simp,by simp⟩
  | cons child rest ih =>
    obtain ⟨first,later⟩ := pairwise_cons.mp sorted
    by_cases below : child.name < name
    · obtain ⟨before,found,after,rfl,split⟩ := ih later
      exact ⟨child::before,found,after,rfl,forall_mem_cons.mpr ⟨below,split.smaller⟩,split.named,
        split.larger⟩
    · by_cases above : name < child.name
      · have larger := fun other mem => Std.lt_trans above (first other mem)
        exact ⟨[],none,child::rest,rfl,by simp,by simp,forall_mem_cons.mpr ⟨above,larger⟩⟩
      · have same := FileTree.eq_of_not_lt below above
        exact ⟨[],some child,rest,rfl,by simp,by simpa using same,
          fun other mem => same ▸ first other mem⟩

theorem insertIdx_length (before after : Vector) (node : INode) :
    (before ++ after).insertIdx before.length node = before ++ node::after := by
  induction before with
  | nil => simp
  | cons child before ih => simp [ih]

namespace Splits
variable (library : Library) (split : Splits name before found after)
include split

theorem binarySearch_eq : binarySearch library name (before ++ (found.toList ++ after)) =
    if found.isSome then (before.length : Int) else -before.length - 1 := by
  have behind : ∀ child ∈ found.toList ++ after, ¬child.name < name := by
    intro child mem
    rcases mem_append.mp mem with same | behind
    · rw [split.named child (Option.mem_toList.mp same)]
      exact Std.lt_irrefl
    · exact FileTree.not_lt_of_lt (split.larger child behind)
  have stops : (found.toList ++ after)[0]?.any (fun child => ¬name < child.name) = found.isSome := by
    rcases found with _ | child
    · cases after with
      | nil => simp
      | cons child rest => simp [split.larger child mem_cons_self]
    · simp [split.named child rfl]
  rw [binarySearch,library.partitioned name before _ split.smaller behind,
    getElem?_append_right (Nat.le_refl _),Nat.sub_self,stops]

theorem getChild_eq : getChild library name (before ++ (found.toList ++ after)) = found := by
  rw [getChild,split.binarySearch_eq]
  cases found with
  | none => exact if_neg (by simp; omega)
  | some child => simp

theorem add_eq (directory : Bool) (address : Nat) :
    add library name (before ++ (found.toList ++ after)) directory address =
      (before ++ found.getD ⟨name,directory,address⟩ :: after,
        some (found.getD ⟨name,directory,address⟩)) := by
  rw [add,split.binarySearch_eq]
  cases found with
  | none =>
    have place : (-(-(before.length : Int) - 1) - 1).toNat = before.length := by omega
    simp only [Option.isSome_none,Bool.false_eq_true,if_false,Option.toList_none,nil_append]
    rw [if_neg (by omega),place,insertIdx_length]
    rfl
  | some child => simp

theorem removeChild_eq :
    removeChild library name (before ++ (found.toList ++ after)) = before ++ after := by
  rw [removeChild,split.binarySearch_eq]
  cases found with
  | none => exact if_neg (by simp; omega)
  | some child => simp [eraseIdx_append_of_length_le]

theorem found_iff (node : INode) :
    found = some node ↔ node ∈ before ++ (found.toList ++ after) ∧ node.name = name := by
  constructor
  · rintro rfl
    exact ⟨by simp,split.named node rfl⟩
  · rintro ⟨mem,same⟩
    rw [mem_append,mem_append,Option.mem_toList] at mem
    rcases mem with mem | mem | mem
    · exact absurd (same ▸ split.smaller node mem) Std.lt_irrefl
    · exact mem
    · exact absurd (same ▸ split.larger node mem) Std.lt_irrefl

variable {map : Bytes → Option INode} (holds : Holds (before ++ (found.toList ++ after)) map)
include holds

theorem map_eq : map name = found := by
  ext node
  rw [holds.2,split.found_iff]

theorem replaced (new : Option INode) (next : Splits name before new after) :
    Holds (before ++ (new.toList ++ after)) (Function.update map name new) := by
  obtain ⟨sorted,maps⟩ := holds
  constructor
  · rw [Sorted,pairwise_append,pairwise_append] at sorted ⊢
    obtain ⟨front,⟨-,back,-⟩,-⟩ := sorted
    refine ⟨front,⟨by cases new <;> simp,back,?_⟩,?_⟩
    · intro child mem other behind
      rw [next.named child (Option.mem_toList.mp mem)]
      exact next.larger other behind
    · intro child mem other behind
      rcases mem_append.mp behind with same | behind
      · rw [next.named other (Option.mem_toList.mp same)]
        exact next.smaller child mem
      · exact Std.lt_trans (next.smaller child mem) (next.larger other behind)
  · intro other node
    by_cases same : other = name
    · rw [same,Function.update_self,next.found_iff]
    · have keeps {kept : Option INode} (named : ∀ child ∈ kept, child.name = name)
          (label : node.name = other) : node ∉ kept.toList :=
        fun mem => same (label ▸ named node (Option.mem_toList.mp mem))
      rw [Function.update_of_ne same,maps]
      refine and_congr_left fun label => ?_
      simp only [mem_append,keeps split.named label,keeps next.named label]

end Splits

variable (library : Library)

theorem step_holds {map : Bytes → Option INode} (action : Action) (holds : Holds children map) :
    Holds (step library children action).1 (mapStep map action).1 ∧
      (mapStep map action).2 = (step library children action).2 := by
  cases action with
  | add directory name address =>
    obtain ⟨before,found,after,rfl,split⟩ := splits name holds.1
    have next : Splits name before (some (found.getD ⟨name,directory,address⟩)) after :=
      ⟨split.smaller,by cases found <;> simp [split.named],split.larger⟩
    rw [step,split.add_eq,mapStep,split.map_eq holds]
    exact ⟨split.replaced holds _ next,rfl⟩
  | getChild name =>
    obtain ⟨before,found,after,rfl,split⟩ := splits name holds.1
    rw [step,split.getChild_eq,mapStep,split.map_eq holds]
    exact ⟨holds,rfl⟩
  | removeChild name =>
    obtain ⟨before,found,after,rfl,split⟩ := splits name holds.1
    rw [step,split.removeChild_eq,mapStep]
    exact ⟨split.replaced holds none ⟨split.smaller,by simp,split.larger⟩,rfl⟩

def scanning : Library where
  lowerBound name children := (children.takeWhile (·.name < name)).length
  partitioned := by
    intro name before after smaller others
    rw [takeWhile_append_of_pos (by simpa using smaller)]
    cases after with
    | nil => simp
    | cons child rest => simp [others child mem_cons_self]

example : Run.final (step scanning) [] [.add true [98] 1,.add false [97] 2,.add false [98] 3,
    .removeChild [97]] = [⟨[98],true,1⟩] := by decide

end Mooon.LightFs.Directory

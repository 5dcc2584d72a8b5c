import Mooon.LightFs.Kinds
import Mooon.LightFs.Lines

/-! A tree written to a file and read back. The tree is seen as the attributes of the files at
their paths: adding a node sets one path, the image lists the paths, and reading it adds them
again. -/
namespace Mooon.LightFs
open List Function
open FileTree (Node Children)

def contents (root : INodeDirectory) : List Bytes → Option FileAttribute := (Node.directory root).fileAt

variable {path : List Bytes}

theorem contents_nil : contents .nil path = none := by
  cases path <;> rfl

variable {root : INodeDirectory} {attri : FileAttribute} {changed : INodeDirectory}

theorem addNode_contents {path : Bytes} (added : addNode path attri root = .ok (changed,true)) :
    contents changed = update (contents root) (getPathNames path) (some attri) :=
  Children.fileAt_insert (addNode_eq_true.mp added).2

theorem addNode_prefixFree {path : Bytes} (accepted : (nodeNames path).isSome) (grown : root.Grown)
    (free : Children.PrefixFree (fun other => other = getPathNames path ∨ (contents root other).isSome)) :
    ∃ changed, addNode path attri root = .ok (changed,true) ∧ changed.Grown := by
  obtain ⟨⟨parents,name⟩,named⟩ := Option.isSome_iff_exists.mp accepted
  have longer : getPathNames path ≠ [] := by simp [nodeNames_spec named]
  obtain ⟨changed,added⟩ := grown.insert_of_prefixFree longer free attri
  exact ⟨changed,addNode_eq_true.mpr ⟨accepted,added⟩,Children.grown_insert grown added⟩

variable {final : INodeDirectory}

theorem addNodes_cons {entry : Bytes × FileAttribute} {rest : List (Bytes × FileAttribute)} :
    addNodes (entry::rest) root = .ok (final,true) ↔
      ∃ changed, addNode entry.1 entry.2 root = .ok (changed,true) ∧
        addNodes rest changed = .ok (final,true) := by
  obtain ⟨path,attri⟩ := entry
  simp only [addNodes,bind,Except.bind]
  rcases addNode path attri root with _ | ⟨next,_ | _⟩ <;> simp [pure,Except.pure]

def setFiles : List (List Bytes × FileAttribute) → (List Bytes → Option FileAttribute) →
    List Bytes → Option FileAttribute
  | [], start => start
  | file::rest, start => setFiles rest (Function.update start file.1 (some file.2))

def namedEntries (entries : List (Bytes × FileAttribute)) : List (List Bytes × FileAttribute) :=
  entries.map (fun entry => (getPathNames entry.1,entry.2))

variable {entries : List (Bytes × FileAttribute)}

section
variable (accepted : ∀ entry ∈ entries, (nodeNames entry.1).isSome)
include accepted

theorem addNodes_prefixFree (grown : root.Grown)
    (free : Children.PrefixFree (fun path =>
      (∃ entry ∈ entries, path = getPathNames entry.1) ∨ (contents root path).isSome)) :
    ∃ changed, addNodes entries root = .ok (changed,true) ∧
      contents changed = setFiles (namedEntries entries) (contents root) := by
  induction entries generalizing root with
  | nil => exact ⟨root,rfl,rfl⟩
  | cons entry rest ih =>
    obtain ⟨path,attri⟩ := entry
    obtain ⟨first,later⟩ := forall_mem_cons.mp accepted
    have freeFirst : Children.PrefixFree (fun other => other = getPathNames path ∨
        (contents root other).isSome) := by
      intro one other isOne isOther
      refine free one other (isOne.imp_left ?_) (isOther.imp_left ?_)
      all_goals exact fun same => ⟨(path,attri),mem_cons_self,same⟩
    obtain ⟨changed,added,grownNow⟩ := addNode_prefixFree first grown freeFirst
    have now := addNode_contents added
    have freeRest : Children.PrefixFree (fun other =>
        (∃ entry ∈ rest, other = getPathNames entry.1) ∨ (contents changed other).isSome) := by
      have known : ∀ other, (∃ entry ∈ rest, other = getPathNames entry.1) ∨ (contents changed other).isSome →
          (∃ entry ∈ (path,attri)::rest, other = getPathNames entry.1) ∨ (contents root other).isSome := by
        rintro other (⟨entry,mem,same⟩ | isFile)
        · exact Or.inl ⟨entry,mem_cons_of_mem _ mem,same⟩
        · rw [now,update_apply] at isFile
          split at isFile
          · rename_i same
            exact Or.inl ⟨(path,attri),mem_cons_self,same⟩
          · exact Or.inr isFile
      exact fun one other isOne isOther => free one other (known one isOne) (known other isOther)
    obtain ⟨final,done,shape⟩ := ih later grownNow freeRest
    refine ⟨final,addNodes_cons.mpr ⟨changed,added,done⟩,?_⟩
    rw [shape,now]
    rfl

theorem addNodes_fresh
    (free : Children.PrefixFree (fun path => ∃ entry ∈ entries, path = getPathNames entry.1)) :
    ∃ root, addNodes entries .nil = .ok (root,true) ∧
      contents root = setFiles (namedEntries entries) (contents .nil) := by
  refine addNodes_prefixFree accepted Children.grown_nil ?_
  simpa [contents_nil] using free

end

theorem addNodes_sorted (sorted : root.Sorted) (added : addNodes entries root = .ok (final,true)) :
    final.Sorted := by
  induction entries generalizing root with
  | nil =>
    cases added
    exact sorted
  | cons entry rest ih =>
    obtain ⟨changed,first,later⟩ := addNodes_cons.mp added
    exact ih (addNode_sorted sorted first) later

theorem recurveResolverTree_of_no_files {parentPath : Bytes} :
    (children : INodeDirectory) → children.files = [] →
    recurveResolverTree parentPath children = []
  | .nil, _ => rfl
  | .cons name (.file attri) rest, empty => absurd empty (by simp [Children.files,Node.files])
  | .cons name (.directory below) rest, empty => by
    obtain ⟨inner,later⟩ := append_eq_nil_iff.mp empty
    have nothing := map_eq_nil_iff.mp inner
    rw [recurveResolverTree,recurveResolverTree_of_no_files below nothing,
      recurveResolverTree_of_no_files rest later,nil_append]

/-- The names on a path are proper, and the path fits below its parent. -/
structure Writable (parentPath : Bytes) (path : List Bytes) : Prop where
  proper : ∀ name ∈ path, ProperName name
  fits : (parentPath ++ pathString path).length ≤ kLfsPathSizeMax

theorem append_pathString_cons {parentPath name : Bytes} :
    parentPath ++ pathString (name::path) = parentPath ++ slash :: name ++ pathString path := by
  simp [pathString]

namespace Writable
variable {parentPath name : Bytes} {path : List Bytes}

section
variable (writable : Writable parentPath (name::path))
include writable

theorem first : ProperName name :=
  writable.proper name mem_cons_self

theorem below : Writable (parentPath ++ slash :: name) path :=
  ⟨fun other inside => writable.proper other (mem_cons_of_mem _ inside),
    append_pathString_cons ▸ writable.fits⟩

theorem noNul_parent (noNul : 0 ∉ parentPath) :
    0 ∉ parentPath ++ slash :: name := by
  have other : (0 : UInt8) ≠ slash := by decide
  simp [noNul,other,writable.first.noNul]

end

theorem length_parent_lt (writable : Writable parentPath path) : parentPath.length < kLfsLineSizeMax := by
  have fits := writable.fits
  simp only [length_append,kLfsLineSizeMax] at fits ⊢
  omega

theorem length_line_lt (writable : Writable parentPath path) {attri : FileAttribute} :
    (lineOf (parentPath ++ pathString path) attri).length < kLfsLineSizeMax := by
  have fits := writable.fits
  have bound := length_lineOf (parentPath ++ pathString path) attri
  simp only [kLfsLineSizeMax] at fits ⊢
  omega

end Writable

theorem snprintf_eq {size : Nat} {text : Bytes} (fits : text.length < size) : snprintf size text = text :=
  take_of_length_le (by omega)

theorem recurveResolverTree_eq {parentPath : Bytes} (noNul : 0 ∉ parentPath) : (children : INodeDirectory) →
    (∀ file ∈ children.files, Writable parentPath file.1) →
    recurveResolverTree parentPath children =
      children.files.flatMap (fun file => lineOf (parentPath ++ pathString file.1) file.2)
  | .nil, _ => rfl
  | .cons name (.file attri) rest, writable => by
    obtain ⟨first,later⟩ := forall_mem_append.mp writable
    have here := first ([name],attri) (by simp [Node.files])
    have whole : parentPath ++ slash :: name = parentPath ++ pathString [name] := by simp [pathString]
    rw [recurveResolverTree,cString_eq noNul,cString_eq here.first.noNul,whole,
      snprintf_eq here.length_line_lt,recurveResolverTree_eq noNul rest later]
    simp [Children.files,Node.files]
  | .cons name (.directory below) rest, writable => by
    obtain ⟨inner,later⟩ := forall_mem_append.mp writable
    have files : (Children.cons name (.directory below) rest).files =
        below.files.map (fun file => (name::file.1,file.2)) ++ rest.files := rfl
    rw [recurveResolverTree,recurveResolverTree_eq noNul rest later,files,flatMap_append]
    congr 1
    rcases below.files.eq_nil_or_concat with empty | ⟨_,last,shape⟩
    · -- an empty dir is not written, whatever becomes of its path
      rw [recurveResolverTree_of_no_files below empty,empty]
      rfl
    · have under : ∀ file ∈ below.files, Writable parentPath (name::file.1) := fun file mem =>
        inner (name::file.1,file.2) (mem_map.mpr ⟨file,mem,rfl⟩)
      have sample := under last (by simp [shape])
      rw [cString_eq noNul,cString_eq sample.first.noNul,snprintf_eq sample.below.length_parent_lt,
        recurveResolverTree_eq (sample.noNul_parent noNul) below (fun file mem => (under file mem).below),
        flatMap_map]
      simp only [append_pathString_cons]

theorem length_fgets (size : Nat) (content : Bytes) :
    (fgets size content).1.length + (fgets size content).2.length = content.length := by
  fun_induction fgets size content with
  | case1 content => simp
  | case2 size _ => rfl
  | case3 size rest => simp [Nat.add_comm]
  | case4 size byte rest other ih =>
    simp only [length_cons]
    omega

theorem rebuildLoop_enough (rounds more : Nat) (content : Bytes) (root : INodeDirectory)
    (enough : content.length ≤ rounds) (enoughMore : content.length ≤ more) :
    rebuildLoop rounds content root = rebuildLoop more content root := by
  have ended : ∀ rounds root, rebuildLoop rounds [] root = .ok (root,true) := by
    intro rounds root
    cases rounds <;> rfl
  induction rounds generalizing more content root with
  | zero =>
    obtain rfl := eq_nil_of_length_eq_zero (Nat.le_zero.mp enough)
    rw [ended,ended]
  | succ rounds ih =>
    cases more with
    | zero =>
      obtain rfl := eq_nil_of_length_eq_zero (Nat.le_zero.mp enoughMore)
      rw [ended,ended]
    | succ more =>
      have consumed : (readLine content).1.length + (readLine content).2.length = content.length :=
        length_fgets _ content
      rw [rebuildLoop,rebuildLoop]
      generalize readLine content = parts at consumed ⊢
      obtain ⟨_ | ⟨byte,line⟩,rest⟩ := parts
      · rfl
      · have same : ∀ changed, rebuildLoop rounds rest changed = rebuildLoop more rest changed := by
          intro changed
          simp only [length_cons] at consumed
          exact ih more rest changed (by omega) (by omega)
        simp only [same]

theorem rebuildTreeFromFile_line {path : Bytes} (some : path ≠ []) (noNul : 0 ∉ path) (plain : Plain path)
    {rest : Bytes} (added : addNode path attri root = .ok (changed,true)) :
    rebuildTreeFromFile (lineOf path attri ++ rest) root = rebuildTreeFromFile rest changed := by
  have pos : lineOf path attri ++ rest ≠ [] := by simp [lineOf]
  obtain ⟨rounds,count⟩ := Nat.exists_eq_add_one_of_ne_zero (mt eq_nil_of_length_eq_zero pos)
  have read := readLine_lineOf plain.noNewline plain.fits.le attri rest
  have scanned := scanLine_lineOf some noNul plain.noComma plain.fits attri
  obtain ⟨byte,line,shape⟩ := exists_cons_of_ne_nil (show lineOf path attri ≠ [] by simp [lineOf])
  have shorter : rest.length ≤ rounds := by
    have whole := count
    simp only [shape,length_cons,length_append] at whole
    omega
  rw [rebuildTreeFromFile,count,rebuildLoop,read,shape]
  simp only [← shape,scanned,added,bind,Except.bind]
  exact rebuildLoop_enough _ _ _ _ shorter le_rfl

/-- A path that is written and read back as it is. -/
structure Readable (path : List Bytes) : Prop where
  nonempty : path ≠ []
  proper : ∀ name ∈ path, ProperName name
  plain : Plain (pathString path)

variable {files : List (List Bytes × FileAttribute)}

theorem rebuildTreeFromFile_lines (readable : ∀ file ∈ files, Readable file.1)
    (added : addNodes (files.map (fun file => (pathString file.1,file.2))) root = .ok (final,true)) :
    rebuildTreeFromFile (files.flatMap (fun file => lineOf (pathString file.1) file.2)) root =
      .ok (final,true) := by
  induction files generalizing root with
  | nil => exact added
  | cons file rest ih =>
    obtain ⟨first,later⟩ := forall_mem_cons.mp readable
    obtain ⟨changed,addedFirst,addedLater⟩ := addNodes_cons.mp added
    have some : pathString file.1 ≠ [] := fun empty =>
      absurd (head_pathString first.nonempty) (by simp [empty])
    rw [flatMap_cons,rebuildTreeFromFile_line some (zero_not_mem_pathString first.proper) first.plain
      addedFirst]
    exact ih later addedLater

/-- What is read back is reported as complete, and has the same files with the same attributes. -/
def RoundTrips (root : INodeDirectory) : Prop :=
  ∃ rebuilt, rebuildTreeFromFile (serializeToFile root) .nil = .ok (rebuilt,true) ∧
    contents rebuilt = contents root

variable {path : List Bytes}

theorem setFiles_of_not_mem (absent : ∀ file ∈ files, file.1 ≠ path)
    (start : List Bytes → Option FileAttribute) : setFiles files start path = start path := by
  induction files generalizing start with
  | nil => rfl
  | cons file rest ih =>
    obtain ⟨first,later⟩ := forall_mem_cons.mp absent
    exact (ih later _).trans (update_of_ne (Ne.symm first) _ _)

theorem setFiles_of_mem (mem : (path,attri) ∈ files) (only : ∀ other, (path,other) ∈ files → other = attri)
    (start : List Bytes → Option FileAttribute) : setFiles files start path = some attri := by
  induction files generalizing start with
  | nil => exact absurd mem (by simp)
  | cons file rest ih =>
    by_cases later : ∃ other, (path,other) ∈ rest
    · obtain ⟨other,later⟩ := later
      obtain rfl := only other (mem_cons_of_mem _ later)
      exact ih later (fun other here => only other (mem_cons_of_mem _ here)) _
    · have absent : ∀ file ∈ rest, file.1 ≠ path := by
        rintro ⟨first,other⟩ here rfl
        exact later ⟨other,here⟩
      rcases mem_cons.mp mem with rfl | here
      · exact (setFiles_of_not_mem absent _).trans (update_self ..)
      · exact absurd ⟨attri,here⟩ later

theorem isSome_setFiles {start : List Bytes → Option FileAttribute} :
    (setFiles files start path).isSome ↔ (∃ file ∈ files, path = file.1) ∨ (start path).isSome := by
  induction files generalizing start with
  | nil => simp [setFiles]
  | cons file rest ih =>
    rw [setFiles,ih]
    by_cases same : path = file.1 <;> simp [same]

theorem rebuildLoop_plain {rounds : Nat} {content : Bytes} {res : Bool}
    (plain : ∀ path, (contents root path).isSome → Plain (pathString path))
    (rebuilt : rebuildLoop rounds content root = .ok (final,res)) :
    ∀ path, (contents final path).isSome → Plain (pathString path) := by
  induction rounds generalizing content root with
  | zero =>
    cases rebuilt
    exact plain
  | succ rounds ih =>
    rw [rebuildLoop] at rebuilt
    split at rebuilt
    · cases rebuilt
      exact plain
    · rename_i line rest _ read
      cases scanned : scanLine line with
      | error cause => simp [scanned,bind,Except.bind] at rebuilt
      | ok field =>
        rcases field with _ | ⟨path,attri⟩
        · simp only [scanned] at rebuilt
          cases rebuilt
          exact plain
        · cases added : addNode path attri root with
          | error cause => simp [scanned,added,bind,Except.bind] at rebuilt
          | ok outcome =>
            simp only [scanned,added,bind,Except.bind] at rebuilt
            obtain ⟨changed,_ | _⟩ := outcome
            · cases rebuilt
              exact addNode_eq_false added ▸ plain
            · refine ih ?_ rebuilt
              intro other isFile
              rw [addNode_contents added,update_apply] at isFile
              split at isFile
              · rename_i same
                exact same ▸ plain_pathString (plain_of_scanned read scanned)
              · exact plain other isFile

structure Storable (path : List Bytes) : Prop where
  nonempty : path ≠ []
  proper : ∀ name ∈ path, ProperName name
  shallow : path.length ≤ kLfsDepthMax
  fits : (pathString path).length ≤ kLfsPathSizeMax

theorem storable_getPathNames {path : Bytes} (accepted : (nodeNames path).isSome) :
    Storable (getPathNames path) := by
  obtain ⟨valid,shallow,some⟩ := (nodeNames_isSome path).mp accepted
  have fits : path.length ≤ kLfsPathSizeMax := by
    simp only [checkPathValid,Bool.and_eq_true,decide_eq_true_eq] at valid
    exact valid.1.2
  exact ⟨some,fun _ => getPathNames_proper,shallow,(length_pathString_getPathNames path).trans fits⟩

theorem Storable.accepted (storable : Storable path) : (nodeNames (pathString path)).isSome := by
  rw [nodeNames_isSome,getPathNames_pathString storable.nonempty storable.proper]
  have starts := head_pathString storable.nonempty
  refine ⟨?_,storable.shallow,storable.nonempty⟩
  simp only [checkPathValid,Bool.and_eq_true,decide_eq_true_eq]
  refine ⟨⟨?_,storable.fits⟩,starts⟩
  intro empty
  rw [eq_nil_of_length_eq_zero empty] at starts
  exact absurd starts (by simp)

theorem mem_files_iff (sorted : root.Sorted) : (path,attri) ∈ root.files ↔ contents root path = some attri :=
  (Children.mem_files path attri root sorted).trans Node.fileAt_eq_some.symm

theorem addNodes_files (storable : ∀ file ∈ files, Storable file.1)
    (free : Children.PrefixFree (fun path => ∃ file ∈ files, path = file.1)) :
    ∃ rebuilt, addNodes (files.map (fun file => (pathString file.1,file.2))) .nil = .ok (rebuilt,true) ∧
      contents rebuilt = setFiles files (contents .nil) := by
  have back : ∀ file ∈ files, getPathNames (pathString file.1) = file.1 := fun file mem =>
    getPathNames_pathString (storable file mem).nonempty (storable file mem).proper
  have named : namedEntries (files.map (fun file => (pathString file.1,file.2))) = files := by
    rw [namedEntries,map_map]
    exact (map_congr_left (fun file mem => by simp [back file mem])).trans (map_id files)
  have accepted : ∀ entry ∈ files.map (fun file => (pathString file.1,file.2)),
      (nodeNames entry.1).isSome := by
    intro entry mem
    obtain ⟨file,inside,rfl⟩ := mem_map.mp mem
    exact (storable file inside).accepted
  have freeEntries : Children.PrefixFree (fun path =>
      ∃ entry ∈ files.map (fun file => (pathString file.1,file.2)), path = getPathNames entry.1) := by
    have known : ∀ path, (∃ entry ∈ files.map (fun file => (pathString file.1,file.2)), path =
      getPathNames entry.1) →
        ∃ file ∈ files, path = file.1 := by
      rintro path ⟨entry,mem,rfl⟩
      obtain ⟨file,inside,rfl⟩ := mem_map.mp mem
      exact ⟨file,inside,back file inside⟩
    exact fun first second isFirst isSecond => free first second (known first isFirst) (known second isSecond)
  obtain ⟨rebuilt,added,shape⟩ := addNodes_fresh accepted freeEntries
  exact ⟨rebuilt,added,named ▸ shape⟩

theorem roundTrips_of_plain (sorted : root.Sorted)
    (storable : ∀ path, (contents root path).isSome → Storable path)
    (free : Children.PrefixFree (fun path => (contents root path).isSome))
    (plain : ∀ path, (contents root path).isSome → Plain (pathString path)) : RoundTrips root := by
  have isFile : ∀ file ∈ root.files, (contents root file.1).isSome := fun file mem =>
    Option.isSome_iff_exists.mpr ⟨file.2,(mem_files_iff sorted).mp mem⟩
  have stored : ∀ file ∈ root.files, Storable file.1 := fun file mem => storable _ (isFile file mem)
  have image : serializeToFile root = root.files.flatMap (fun file => lineOf (pathString file.1) file.2) :=
    recurveResolverTree_eq (by simp) root (fun file mem => ⟨(stored file mem).proper,(stored file mem).fits⟩)
  have freeFiles : Children.PrefixFree (fun path => ∃ file ∈ root.files, path = file.1) := by
    rintro first second ⟨one,isOne,rfl⟩ ⟨other,isOther,rfl⟩
    exact free one.1 other.1 (isFile one isOne) (isFile other isOther)
  obtain ⟨rebuilt,added,shape⟩ := addNodes_files stored freeFiles
  refine ⟨rebuilt,?_,?_⟩
  · rw [image]
    exact rebuildTreeFromFile_lines (fun file mem =>
      ⟨(stored file mem).nonempty,(stored file mem).proper,plain _ (isFile file mem)⟩) added
  · funext path
    rw [shape]
    cases found : contents root path with
    | none =>
      rw [setFiles_of_not_mem,contents_nil]
      rintro file mem rfl
      exact absurd (isFile file mem) (by simp [found])
    | some attri =>
      refine setFiles_of_mem ((mem_files_iff sorted).mpr found) ?_ _
      intro other mem
      rw [mem_files_iff sorted,found] at mem
      exact (Option.some.inj mem).symm

theorem plain_of_roundTrips (roundTrips : RoundTrips root)
    (isFile : (contents root path).isSome) : Plain (pathString path) := by
  obtain ⟨rebuilt,read,same⟩ := roundTrips
  refine rebuildLoop_plain (fun other absurdFile => ?_) read path (same ▸ isFile)
  exact absurd absurdFile (by simp [contents_nil])

theorem round_trips_iff (entries : List (Bytes × FileAttribute))
    (accepted : ∀ entry ∈ entries, (nodeNames entry.1).isSome)
    (free : Children.PrefixFree (fun path => ∃ entry ∈ entries, path = getPathNames entry.1)) :
    ∃ root, addNodes entries .nil = .ok (root,true) ∧
      (RoundTrips root ↔ ∀ entry ∈ entries, Plain (pathString (getPathNames entry.1))) := by
  obtain ⟨root,added,shape⟩ := addNodes_fresh accepted free
  have isFile : ∀ path, (contents root path).isSome ↔ ∃ entry ∈ entries, path = getPathNames entry.1 := by
    intro path
    rw [shape,isSome_setFiles]
    simp only [namedEntries,contents_nil,mem_map,Option.isSome_none,Bool.false_eq_true,or_false]
    constructor
    · rintro ⟨_,⟨entry,member,rfl⟩,same⟩
      exact ⟨entry,member,same⟩
    · rintro ⟨entry,member,same⟩
      exact ⟨_,⟨entry,member,rfl⟩,same⟩
  have sorted := addNodes_sorted (show (Children.nil : INodeDirectory).Sorted from trivial) added
  refine ⟨root,added,fun roundTrips entry member => ?_,fun plain => ?_⟩
  · exact plain_of_roundTrips roundTrips ((isFile _).mpr ⟨entry,member,rfl⟩)
  · refine roundTrips_of_plain sorted ?_ ?_ ?_
    · rintro path found
      obtain ⟨entry,member,rfl⟩ := (isFile path).mp found
      exact storable_getPathNames (accepted entry member)
    · exact fun first second isFirst isSecond =>
        free first second ((isFile first).mp isFirst) ((isFile second).mp isSecond)
    · rintro path found
      obtain ⟨entry,member,rfl⟩ := (isFile path).mp found
      exact plain entry member

theorem round_trips_iff_two :
    ∃ root, addNodes [([47,97,47,98],⟨5,7⟩),([47,99],⟨9,11⟩)] .nil = .ok (root,true) ∧ RoundTrips root := by
  obtain ⟨root,added,same⟩ := round_trips_iff [([47,97,47,98],⟨5,7⟩),([47,99],⟨9,11⟩)] (by decide) (by
    rintro first second ⟨one,isOne,rfl⟩ ⟨other,isOther,rfl⟩
    revert other one
    decide)
  refine ⟨root,added,same.mpr ?_⟩
  intro entry member
  rcases mem_cons.mp member with rfl | later
  · exact ⟨by decide,by decide,by decide⟩
  · obtain rfl := mem_singleton.mp later
    exact ⟨by decide,by decide,by decide⟩

theorem image_misread : (addNodes [([47,97,44,98],⟨1,2⟩)] .nil =
    .ok (.cons [97,44,98] (.file ⟨1,2⟩) .nil,true) ∧
      rebuildTreeFromFile (serializeToFile (.cons [97,44,98] (.file ⟨1,2⟩) .nil)) .nil = .ok (.nil,false)) ∧
    (addNodes [([47,97,44,49,44,50],⟨5,7⟩)] .nil = .ok (.cons [97,44,49,44,50] (.file ⟨5,7⟩) .nil,true) ∧
      rebuildTreeFromFile (serializeToFile (.cons [97,44,49,44,50] (.file ⟨5,7⟩) .nil)) .nil =
        .ok (.cons [97] (.file ⟨1,2⟩) .nil,true)) ∧
    (addNodes [([47,97,10,98],⟨1,2⟩)] .nil = .ok (.cons [97,10,98] (.file ⟨1,2⟩) .nil,true) ∧
      rebuildTreeFromFile (serializeToFile (.cons [97,10,98] (.file ⟨1,2⟩) .nil)) .nil = .ok (.nil,false)) ∧
    addNodes [(47 :: replicate 1023 97,⟨1,2⟩)] .nil =
        .ok (.cons (replicate 1023 97) (.file ⟨1,2⟩) .nil,true) ∧
      rebuildTreeFromFile (serializeToFile (.cons (replicate 1023 97) (.file ⟨1,2⟩) .nil)) .nil =
        .error .overflow := by
  refine ⟨⟨?_,?_⟩,⟨?_,?_⟩,⟨?_,?_⟩,?_,?_⟩ <;> decide +kernel

end Mooon.LightFs

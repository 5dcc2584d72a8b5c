import Mathlib.Data.List.Basic

/-! `CFileUtils::file_copy`. A list of results says what `read` and `write` do, in the order of
the calls; a copy that is not at its end behind them is still running. Only a failed call sets
`errno`, and a chunk that was not written whole is written once more where that is `EINTR`. -/
namespace Mooon.Sys.FileCopy
open List

abbrev Bytes := List UInt8

def bufferSize : Nat := 4096 - 1
def EINTR : Nat := 4

/-- So many bytes were moved, as far as there are any, or the call failed. -/
inductive Result where
  | moved (count : Nat)
  | failed (errno : Nat)

/-- `buf` is a chunk that was read and not yet written. -/
structure Copy where
  src : Bytes
  buf : Bytes
  dst : Bytes
  errno : Nat
  fileSize : Nat

/-- What the loop comes to with the next result, and how it ends. -/
def step (copy : Copy) : Result → Copy × Option (Except Nat Nat)
  | .failed errno => ({copy with errno},if errno = EINTR then none else some (.error errno))
  | .moved count =>
    if copy.buf = [] then
      -- at least a byte is read, unless the source is at its end
      let size := min (count + 1) bufferSize
      ({copy with src := copy.src.drop size, buf := copy.src.take size},
        if copy.src = [] then some (.ok copy.fileSize) else none)
    else if count < copy.buf.length then
      ({copy with dst := copy.dst ++ copy.buf.take count},
        if copy.errno = EINTR then none else some (.error copy.errno))
    else
      ({copy with buf := [], dst := copy.dst ++ copy.buf, fileSize := copy.fileSize + copy.buf.length},none)

def fileCopy : Copy → List Result → Copy × Option (Except Nat Nat)
  | copy, [] => (copy,none)
  | copy, result::results =>
    match step copy result with
    | (next,none) => fileCopy next results
    | ended => ended

/-- A write is short while `errno` still is that of an interrupted call. -/
def Doubles (copy : Copy) (result : Result) : Prop :=
  copy.errno = EINTR ∧ ∃ count, result = .moved count ∧ 0 < count ∧ count < copy.buf.length

def Clean : Copy → List Result → Prop
  | _, [] => True
  | copy, result::results => ¬Doubles copy result ∧
    ((step copy result).2 = none → Clean (step copy result).1 results)

variable {src dst : Bytes} {copy : Copy}

/-- What was written, and whether any of it more than once. -/
def Copied (src dst : Bytes) (clean : Prop) (copy : Copy) : Prop :=
  ∃ whole, src = whole ++ (copy.buf ++ copy.src) ∧ copy.fileSize = whole.length ∧
    (clean → copy.dst = dst ++ whole) ∧ (¬clean → dst.length + whole.length < copy.dst.length)

theorem step_copied {clean : Prop} (copied : Copied src dst clean copy) (result : Result)
    (going : (step copy result).2 = none) :
    Copied src dst (clean ∧ ¬Doubles copy result) (step copy result).1 := by
  obtain ⟨whole,split,size,exactly,more⟩ := copied
  cases result with
  | failed errno =>
    have single : ¬Doubles copy (.failed errno) := by simp [Doubles]
    exact ⟨whole,split,size,fun both => exactly both.1,fun fails => more fun clean => fails ⟨clean,single⟩⟩
  | moved count =>
    by_cases reading : copy.buf = []
    · have single : ¬Doubles copy (.moved count) := by simp [Doubles,reading]
      simp only [step,reading,if_true]
      refine ⟨whole,?_,size,fun both => exactly both.1,fun fails => more fun clean => fails ⟨clean,single⟩⟩
      rw [take_append_drop,split,reading]
      rfl
    · by_cases short : count < copy.buf.length
      · simp only [step,reading,short,if_true,if_false] at going ⊢
        have stale : copy.errno = EINTR := by
          by_contra other
          simp [other] at going
        refine ⟨whole,split,size,fun both => ?_,fun fails => ?_⟩
        · have nothing : count = 0 := by
            by_contra some
            exact both.2 ⟨stale,count,rfl,Nat.pos_of_ne_zero some,short⟩
          simp [nothing,exactly both.1]
        · by_cases clean : clean
          · obtain ⟨-,written,same,some,-⟩ := not_not.mp fun single => fails ⟨clean,single⟩
            cases same
            simp only [exactly clean,length_append,length_take]
            omega
          · have longer := more clean
            simp only [length_append]
            omega
      · have single : ¬Doubles copy (.moved count) := by simp [Doubles]; omega
        simp only [step,reading,short,if_false]
        refine ⟨whole ++ copy.buf,?_,?_,fun both => ?_,fun fails => ?_⟩
        · rw [append_assoc]; exact split
        · rw [length_append,size]
        · rw [exactly both.1,append_assoc]
        · have longer := more fun clean => fails ⟨clean,single⟩
          simp only [length_append]
          omega

theorem step_ok {result : Result} {size : Nat} (gave : (step copy result).2 = some (.ok size)) :
    copy.buf = [] ∧ copy.src = [] ∧ size = copy.fileSize ∧ (step copy result).1.dst = copy.dst := by
  cases result with
  | failed errno =>
    simp only [step] at gave
    split_ifs at gave
    simp at gave
  | moved count =>
    simp only [step] at gave ⊢
    split_ifs at gave ⊢ with reading ended short stale <;> simp_all

theorem fileCopy_ok {clean : Prop} (copied : Copied src dst clean copy) {results : List Result}
    {final : Copy} {size : Nat} (gave : fileCopy copy results = (final,some (.ok size))) :
    size = src.length ∧ (final.dst = dst ++ src ↔ clean ∧ Clean copy results) := by
  induction results generalizing copy clean with
  | nil => simp [fileCopy] at gave
  | cons result results ih =>
    rcases stepped : step copy result with ⟨next,_ | ending⟩
    · have goes : (step copy result).2 = none := by rw [stepped]
      have later := ih (step_copied copied result goes) (by simpa only [fileCopy,stepped] using gave)
      rw [Clean,later.2,and_assoc,forall_prop_of_true goes]
      exact ⟨later.1,Iff.rfl⟩
    · simp only [fileCopy,stepped,Prod.mk.injEq,Option.some.injEq] at gave
      obtain ⟨rfl,rfl⟩ := gave
      obtain ⟨read,ended,rfl,kept⟩ := step_ok (by rw [stepped])
      obtain ⟨whole,split,length,exactly,more⟩ := copied
      rw [read,ended,append_nil,append_nil] at split
      have all : Clean copy (result::results) := ⟨by simp [Doubles,read],by simp [stepped]⟩
      rw [stepped] at kept
      refine ⟨by rw [length,split],fun same => ⟨?_,all⟩,fun both => ?_⟩
      · by_contra unclean
        have longer := more unclean
        rw [← kept,same,split,length_append] at longer
        omega
      · rw [kept,exactly both.1,split]

/-- The overloads call `file_copy` with these descriptors, or throw. The first one tests the
descriptor that it was given. -/
def fileCopyTo (srcFd opened : Int) : Option (Int × Int) := if srcFd = -1 then none else some (srcFd,opened)
def fileCopyFrom (opened dstFd : Int) : Option (Int × Int) :=
  if opened = -1 then none else some (opened,dstFd)
def fileCopyNames (srcOpened dstOpened : Int) : Option (Int × Int) :=
  if srcOpened = -1 then none else if dstOpened = -1 then none else some (srcOpened,dstOpened)

theorem file_copy_iff (src dst : Bytes) (errno : Nat) (results : List Result) (final : Copy) (size : Nat)
    (returned : fileCopy ⟨src,[],dst,errno,0⟩ results = (final,some (.ok size))) (srcFd dstFd : Int) :
    (size = src.length ∧ final.dst = dst ++ src ↔ Clean ⟨src,[],dst,errno,0⟩ results) ∧
    ((∀ fds ∈ fileCopyTo srcFd dstFd, fds.2 ≠ -1) ↔ srcFd = -1 ∨ dstFd ≠ -1) ∧
    (∀ fds ∈ fileCopyFrom srcFd dstFd, fds.1 ≠ -1) ∧ ∀ fds ∈ fileCopyNames srcFd dstFd, fds.1 ≠ -1 ∧
      fds.2 ≠ -1 := by
  have start : Copied src dst True ⟨src,[],dst,errno,0⟩ :=
    ⟨[],rfl,rfl,fun _ => (append_nil dst).symm,fun never => absurd trivial never⟩
  have copied := fileCopy_ok start returned
  refine ⟨?_,?_,?_,?_⟩
  · rw [copied.2,true_and]
    exact and_iff_right copied.1
  · by_cases given : srcFd = -1 <;> simp [fileCopyTo,given]
  · by_cases given : srcFd = -1 <;> simp [fileCopyFrom,given]
  · by_cases given : srcFd = -1
    · simp [fileCopyNames,given]
    · by_cases made : dstFd = -1 <;> simp [fileCopyNames,given,made]

theorem file_copy_two : (fileCopy ⟨[1,2],[],[],0,0⟩ [.moved 1,.failed 4,.moved 2,.moved 0]).1.dst = [1,2] :=
  ((file_copy_iff [1,2] [] 0 [.moved 1,.failed 4,.moved 2,.moved 0] ⟨[],[],[1,2],4,2⟩ 2 rfl 3 4).1.mpr
    ⟨by simp [Doubles],fun _ => ⟨by simp [Doubles],fun _ => ⟨by simp [Doubles,step,bufferSize],fun _ =>
      ⟨by simp [Doubles,step,bufferSize],fun _ => trivial⟩⟩⟩⟩).2

/-- A read that was interrupted makes a short write write its bytes twice. -/
theorem file_copy_doubled : fileCopy ⟨[1,2],[],[],0,0⟩ [.failed 4,.moved 1,.moved 1,.moved 2,.moved 0] =
    (⟨[],[],[1,1,2],4,2⟩,some (.ok 2)) ∧ fileCopyTo 3 (-1) = some (3,-1) := ⟨rfl,rfl⟩

end Mooon.Sys.FileCopy

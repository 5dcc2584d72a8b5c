import Mooon.Disk
import Mooon.Mutex
import Mooon.Run

/-! `CSimpleLogger`, which several processes may have on one file. Each step is one system call of
one of them: the calls succeed, except for an exclusive `open` of a file that is there, and the file
lock is free or has one holder. -/
namespace Mooon.SimpleLogger
open List Function Run

abbrev Bytes := List UInt8

/-- The log file, or the one with a number behind its name. -/
inductive Name where
  | current
  | backup (index : Nat)
deriving DecidableEq

structure Config where
  logSize : UInt32
  logNumer : UInt8
  recordSize : UInt16
  numbered : 0 < logNumer

section
variable (config : Config) (process : Nat) (logger : Logger) (state : State) (disk : Disk Name)

def Config.fileLimit : Nat := if config.logSize < 1024 then 1024 else config.logSize.toNat
def Config.recordLimit : Nat := if config.recordSize < 1024 then 1024 else config.recordSize.toNat

def Config.oldest : Nat := max (config.logNumer.toNat - 1) 1

def newline : UInt8 := 10

/-- What `writev` gets: the header, and the text as far as there is room, with a newline for its
end. A header is not longer than a record. -/
def record (header text : Bytes) : Bytes :=
  header ++ text.take (config.recordLimit - header.length) ++ [newline]

inductive Point where
  | idle
  | needRotate
  | lock
  | reopen
  | recheck (fd : Descriptor)
  | adopt (fd : Descriptor)
  | discard
  | reset
  | access (index : Nat)
  | rename (index : Nat)
  | accessCurrent
  | renameCurrent
  | create
  | unlock
deriving DecidableEq

structure Logger where
  config : Config
  fd : Option Descriptor
  point : Point

/-- A line whose `writev` has completed, with the file that it went to. It is `replaced` when that
file was the oldest backup of a rotation. -/
structure Written where
  line : Bytes
  file : Nat
  replaced : Bool
deriving DecidableEq

/-- The loggers by their processes, and the holder of the file lock. -/
structure State where
  disk : Disk Name
  lock : Option Nat
  logger : Nat → Option Logger
  lines : List Written

def State.empty : State := ⟨.empty,none,fun _ => none,[]⟩

inductive Action where
  | construct (process : Nat) (config : Config)
  | destroy (process : Nat)
  | print (process : Nat) (header text : Bytes)
  | advance (process : Nat)

def set : State :=
  {state with logger := Function.update state.logger process (some logger)}

def construct (config : Config) (state : State) : State :=
  match state.logger process with
  | some _ => state
  | none =>
    let (disk,file) := state.disk.openOrCreate .current
    set process ⟨config,some ⟨file,none⟩,.idle⟩ {state with disk}

def destroy : State :=
  match state.logger process with
  | some ⟨_,_,.idle⟩ => {state with logger := Function.update state.logger process none}
  | _ => state

def print (header text : Bytes) (state : State) : State :=
  match state.logger process with
  | some ⟨config,some fd,.idle⟩ =>
    let (disk,after) := state.disk.write (record config header text) fd
    set process ⟨config,some after,.needRotate⟩
      {state with disk, lines := state.lines ++ [⟨header ++ text ++ [newline],fd.file,false⟩]}
  | _ => state

def needRotate (fd : Option Descriptor) : Bool :=
  match fd with
  | none => false
  | some fd => config.fileLimit < disk.size fd.file

def history (index : Nat) : Point := if index = 0 then .accessCurrent else .access index

def mark (name : Name) (disk : Disk Name) (lines : List Written) : List Written :=
  lines.map fun written => if disk.link written.file = some name then
    {written with replaced := true} else written

def renameTo (old : Name) (index : Nat) (state : State) : State :=
  if state.disk.lookup old = none then state
  else {state with
    disk := state.disk.rename old (.backup index)
    lines := if index = config.oldest then mark (.backup index) state.disk state.lines else state.lines}

def advance : State :=
  let go := fun point => set process {logger with point}
  match logger.point with
  | .idle => state
  | .needRotate => go (if needRotate logger.config state.disk logger.fd then .lock else .idle) state
  | .lock => if state.lock = none then go .reopen {state with lock := some process} else state
  | .reopen =>
    let (disk,file) := state.disk.openOrCreate .current
    go (.recheck ⟨file,none⟩) {state with disk}
  | .recheck fd => go (if needRotate logger.config state.disk (some fd) then .discard else .adopt fd) state
  | .adopt fd => set process {logger with fd := some fd, point := .unlock} state
  | .discard => go .reset state
  | .reset => set process {logger with fd := none, point := history (logger.config.logNumer.toNat - 1)} state
  | .access index =>
    go (if state.disk.lookup (.backup (index-1)) = none then history (index-1) else .rename index) state
  | .rename index => go (history (index-1)) (renameTo logger.config (.backup (index-1)) index state)
  | .accessCurrent => go (if state.disk.lookup .current = none then .create else .renameCurrent) state
  | .renameCurrent => go .create (renameTo logger.config .current 1 state)
  | .create =>
    match state.disk.openExclusive .current with
    | some (disk,file) => set process {logger with fd := some ⟨file,some 0⟩, point := .unlock}
      {state with disk}
    | none => set process {logger with fd := none, point := .unlock} state
  | .unlock => go .idle {state with lock := none}

def step : Action → State × Unit
  | .construct process config => (construct process config state,())
  | .destroy process => (destroy process state,())
  | .print process header text => (print process header text state,())
  | .advance process =>
    match state.logger process with
    | none => (state,())
    | some logger => (advance process logger state,())

/-- The line is in a file of the directory, unless its file was replaced as the oldest one. -/
def Present (written : Written) : Prop :=
  written.replaced = false →
    ∃ file < state.disk.next, state.disk.Linked file ∧ written.line <:+: state.disk.bytes file

/-- No line is lost, and a logger that is not inside a call has a descriptor. -/
structure Safe (state : State) : Prop where
  lines : ∀ written ∈ state.lines, Present state written
  opened : ∀ process logger, state.logger process = some logger → logger.point = .idle → logger.fd ≠ none

def Short : Action → Prop
  | .print process header text =>
    ∀ logger ∈ state.logger process, header.length + text.length < logger.config.recordLimit
  | _ => True

/-- A `writev` goes to the end of a file that has a name, and there is no log file when a new one is
created. -/
def Undisturbed : Action → Prop
  | .print process _ _ => ∀ logger ∈ state.logger process, logger.point = .idle → ∀ fd ∈ logger.fd,
    state.disk.Linked fd.file ∧ state.disk.AtEnd fd
  | .advance process => ∀ logger ∈ state.logger process, logger.point = .create → state.disk.Free .current
  | _ => True

instance (state : State) (written : Written) : Decidable (Present state written) :=
  inferInstanceAs (Decidable (written.replaced = false → ∃ file < state.disk.next, _ ∧ _))

instance (state : State) : (action : Action) → Decidable (Short state action)
  | .print process _ _ => inferInstanceAs (Decidable (∀ logger ∈ state.logger process, _))
  | .construct _ _ | .destroy _ | .advance _ => inferInstanceAs (Decidable True)

instance (state : State) : (action : Action) → Decidable (Undisturbed state action)
  | .print process _ _ =>
    inferInstanceAs (Decidable (∀ logger ∈ state.logger process, _ → ∀ fd ∈ logger.fd, _ ∧ _))
  | .advance process => inferInstanceAs (Decidable (∀ logger ∈ state.logger process, _ → _))
  | .construct _ _ | .destroy _ => inferInstanceAs (Decidable True)

def Point.holdsLock : Point → Bool
  | .idle | .needRotate | .lock => false
  | _ => true

def NeedsLock (logger : Option Logger) : Prop := ∃ inside ∈ logger, inside.point.holdsLock = true

/-- A rotation has moved the backup out of the way that the next `rename` would hit, unless that one
is the oldest. -/
def Cleared (logger : Logger) : Prop :=
  match logger.point with
  | .access index | .rename index => 0 < index ∧ (index ≠ logger.config.oldest → disk.Free (.backup index))
  | .accessCurrent | .renameCurrent => logger.config.oldest ≠ 1 → disk.Free (.backup 1)
  | _ => True

def Kept (written : Written) : Prop :=
  written.replaced = false → disk.Linked written.file ∧ written.line <:+: disk.bytes written.file

def Opened : Prop :=
  logger.point = .idle ∨ logger.point = .needRotate ∨ logger.point = .unlock → logger.fd ≠ none

end

structure Sound (state : State) : Prop where
  owned : Mutex.Owned NeedsLock state.lock state.logger
  kept : ∀ written ∈ state.lines, Kept state.disk written
  unused : state.disk.Free (.backup 0)
  cleared : ∀ process logger, state.logger process = some logger → Cleared state.disk logger
  opened : ∀ process logger, state.logger process = some logger → Opened logger

variable {logger : Logger}

theorem needsLock_some : NeedsLock (some logger) ↔ logger.point.holdsLock = true := by
  simp [NeedsLock]

theorem cleared_of_unlocked (disk : Disk Name) (unlocked : logger.point.holdsLock = false) :
    Cleared disk logger := by
  unfold Cleared
  split
  all_goals first | trivial | simp_all [Point.holdsLock]

theorem sound_empty : Sound .empty := by
  refine ⟨?_,?_,?_,?_,?_⟩
  · apply Mutex.Owned.free
    rintro process ⟨logger,mem,-⟩
    cases mem
  · intro written mem
    cases mem
  · intro file inside
    cases inside
  · intro process logger found
    cases found
  · intro process logger found
    cases found

theorem Sound.safe {state : State} (sound : Sound state) : Safe state := by
  constructor
  · intro written mem unreplaced
    obtain ⟨linked,inside⟩ := sound.kept written mem unreplaced
    exact ⟨written.file,linked.1,linked,inside⟩
  · intro process logger found idle
    exact sound.opened process logger found (Or.inl idle)

/-- Files keep their names and what is in them, and no backup gets a name. -/
structure Grows (before after : Disk Name) : Prop where
  kept : ∀ written, Kept before written → Kept after written
  free : ∀ index, before.Free (.backup index) → after.Free (.backup index)

section
variable {disk : Disk Name}

theorem grows_create : Grows disk (disk.create .current) := by
  constructor
  · intro written kept unreplaced
    obtain ⟨linked,inside⟩ := kept unreplaced
    rw [Disk.create_bytes linked.1]
    exact ⟨linked.create,inside⟩
  · intro index free
    exact free.create (by simp)

theorem grows_openOrCreate : Grows disk (disk.openOrCreate .current).1 := by
  unfold Disk.openOrCreate
  split
  · exact ⟨fun _ kept => kept,fun _ free => free⟩
  · exact grows_create

theorem grows_write {fd : Descriptor} (data : Bytes) (atEnd : disk.AtEnd fd) :
    Grows disk (disk.write data fd).1 := by
  constructor
  · intro written kept unreplaced
    obtain ⟨linked,inside⟩ := kept unreplaced
    exact ⟨linked.write data fd,Disk.infix_write data atEnd inside⟩
  · intro index free
    exact free.write data fd

theorem Grows.cleared {after : Disk Name} {logger : Logger} (grows : Grows disk after)
    (cleared : Cleared disk logger) : Cleared after logger := by
  unfold Cleared at cleared ⊢
  split at cleared
  · exact ⟨cleared.1,fun younger => grows.free _ (cleared.2 younger)⟩
  · exact ⟨cleared.1,fun younger => grows.free _ (cleared.2 younger)⟩
  · exact fun younger => grows.free _ (cleared younger)
  · exact fun younger => grows.free _ (cleared younger)
  · trivial

theorem kept_rename {old : Name} {index : Nat} {written : Written} (kept : Kept disk written)
    (apart : written.replaced = false → disk.link written.file ≠ some (.backup index)) :
    Kept (disk.rename old (.backup index)) written := by
  intro unreplaced
  obtain ⟨linked,inside⟩ := kept unreplaced
  rw [Disk.rename_bytes]
  exact ⟨linked.rename (apart unreplaced),inside⟩

end

theorem mem_mark {name : Name} {disk : Disk Name} {lines : List Written} {written : Written}
    (mem : written ∈ mark name disk lines) (unreplaced : written.replaced = false) :
    written ∈ lines ∧ disk.link written.file ≠ some name := by
  obtain ⟨before,there,rfl⟩ := mem_map.mp mem
  by_cases same : disk.link before.file = some name
  · rw [if_pos same] at unreplaced
    cases unreplaced
  · rw [if_neg same]
    exact ⟨there,same⟩

section
variable {state : State} {process : Nat} {before logger : Logger} {disk : Disk Name}

theorem Sound.grows (sound : Sound state) (grows : Grows state.disk disk) : Sound {state with disk} := by
  refine ⟨sound.owned,?_,grows.free 0 sound.unused,?_,sound.opened⟩
  · exact fun written mem => grows.kept written (sound.kept written mem)
  · exact fun process logger found => grows.cleared (sound.cleared process logger found)

theorem forall_update {holds : Logger → Prop} (own : holds logger)
    (others : ∀ other inside, state.logger other = some inside → other ≠ process → holds inside) (other : Nat)
    (inside : Logger) (found : update state.logger process (some logger) other = some inside) :
    holds inside := by
  by_cases same : other = process
  · rw [same,update_self] at found
    cases found
    exact own
  · rw [update_of_ne same] at found
    exact others other inside found same

theorem of_update_none {other : Nat} (found : update state.logger process none other = some logger) :
    state.logger other = some logger := by
  by_cases same : other = process
  · rw [same,update_self] at found
    cases found
  · rwa [update_of_ne same] at found

theorem Sound.set (sound : Sound state) {lock : Option Nat}
    (owned : Mutex.Owned NeedsLock lock (update state.logger process (some logger)))
    (cleared : Cleared state.disk logger) (opened : Opened logger) :
    Sound (set process logger {state with lock}) := by
  refine ⟨owned,sound.kept,sound.unused,?_,?_⟩
  · exact forall_update cleared fun other inside found _ => sound.cleared other inside found
  · exact forall_update opened fun other inside found _ => sound.opened other inside found

theorem Sound.goes (sound : Sound state) (found : state.logger process = some before)
    (same : logger.point.holdsLock = before.point.holdsLock) (cleared : Cleared state.disk logger)
    (opened : Opened logger) : Sound (SimpleLogger.set process logger state) := by
  refine sound.set ?_ cleared opened
  apply sound.owned.keeps
  rw [found,needsLock_some,needsLock_some,same]

variable (index : Nat)

theorem cleared_history (next : logger.point = history index)
    (first : index = 0 → logger.config.oldest ≠ 1 → disk.Free (.backup 1))
    (later : index ≠ 0 → index ≠ logger.config.oldest → disk.Free (.backup index)) : Cleared disk logger := by
  unfold Cleared
  rw [next,history]
  split_ifs with zero
  · exact first zero
  · exact ⟨Nat.pos_of_ne_zero zero,later zero⟩

theorem history_holdsLock : (history index).holdsLock = true := by
  unfold history
  split_ifs <;> rfl

theorem opened_history (next : logger.point = history index) : Opened logger := by
  unfold Opened
  rw [next,history]
  split_ifs <;> simp

variable {old : Name}

theorem renameTo_disk {cfg : Config} {index : Nat} :
    (renameTo cfg old index state).disk = state.disk.rename old (.backup index) := by
  by_cases missing : state.disk.lookup old = none
  · rw [renameTo,if_pos missing,Disk.rename_missing (Disk.free_iff.mpr missing)]
  · rw [renameTo,if_neg missing]

variable {index : Nat}

section
variable (sound : Sound state)
include sound

theorem Sound.renames (found : state.logger process = some before)
    (holds : before.point.holdsLock = true) (pos : 0 < index)
    (free : index ≠ before.config.oldest → state.disk.Free (.backup index))
    (same : logger.point.holdsLock = true)
    (cleared : Cleared (renameTo before.config old index state).disk logger) (opened : Opened logger) :
    Sound (SimpleLogger.set process logger (renameTo before.config old index state)) := by
  by_cases missing : state.disk.lookup old = none
  · rw [renameTo,if_pos missing] at cleared ⊢
    exact sound.goes found (same.trans holds.symm) cleared opened
  · rw [renameTo,if_neg missing] at cleared ⊢
    refine ⟨?_,?_,?_,?_,?_⟩
    · apply sound.owned.keeps
      rw [found,needsLock_some,needsLock_some,same,holds]
    · intro written mem
      by_cases oldest : index = before.config.oldest
      · rw [if_pos oldest] at mem
        intro unreplaced
        obtain ⟨there,apart⟩ := mem_mark mem unreplaced
        exact kept_rename (sound.kept written there) (fun _ => apart) unreplaced
      · rw [if_neg oldest] at mem
        have kept := sound.kept written mem
        exact kept_rename kept fun unreplaced => free oldest written.file (kept unreplaced).1.1
    · exact sound.unused.rename fun zero => pos.ne' (Name.backup.inj zero)
    · refine forall_update cleared ?_
      intro other inside there apart
      -- only one process is inside the lock
      have unlocked : inside.point.holdsLock = false := by
        by_contra locked
        apply apart
        apply sound.owned.unique
        · rw [there,needsLock_some]
          simpa using locked
        · rw [found,needsLock_some]
          exact holds
      exact cleared_of_unlocked _ unlocked
    · exact forall_update opened fun other inside there _ => sound.opened other inside there

variable {cfg : Config}

theorem Sound.history {fd : Option Descriptor}
    (found : state.logger process = some ⟨cfg,fd,.rename index⟩) :
    Sound (SimpleLogger.set process ⟨cfg,fd,SimpleLogger.history (index-1)⟩
      (renameTo cfg (.backup (index-1)) index state)) := by
  obtain ⟨pos,free⟩ := sound.cleared process _ found
  refine sound.renames found rfl pos free (history_holdsLock _) ?_ (opened_history _ rfl)
  have apart : Name.backup index ≠ .backup (index-1) := fun same => by have := Name.backup.inj same; omega
  rw [renameTo_disk]
  refine cleared_history (index-1) rfl ?_ fun _ _ => Disk.free_rename apart
  -- the loop ends without a file of number zero
  intro last younger
  have one : index = 1 := by omega
  rw [last,Disk.rename_missing sound.unused,← one]
  exact free (one ▸ younger.symm)

theorem Sound.advance (found : state.logger process = some logger)
    (undisturbed : logger.point = .create → state.disk.Free .current) :
    Sound (advance process logger state) := by
  obtain ⟨cfg,fd,point⟩ := logger
  have cleared := sound.cleared process _ found
  have opened := sound.opened process _ found
  cases point with
  | idle => exact sound
  | needRotate =>
    dsimp only [SimpleLogger.advance]
    split_ifs with large
    · exact sound.goes found rfl trivial (by simp [Opened])
    · exact sound.goes found rfl trivial fun _ => opened (Or.inr (Or.inl rfl))
  | lock =>
    dsimp only [SimpleLogger.advance]
    split_ifs with free
    · refine sound.set ?_ trivial (by simp [Opened])
      exact (free ▸ sound.owned).takes (needsLock_some.mpr rfl)
    · exact sound
  | reopen => exact (sound.grows grows_openOrCreate).goes found rfl trivial (by simp [Opened])
  | recheck other =>
    dsimp only [SimpleLogger.advance]
    split_ifs
    · exact sound.goes found rfl trivial (by simp [Opened])
    · exact sound.goes found rfl trivial (by simp [Opened])
  | adopt other | discard => exact sound.goes found rfl trivial (by simp [Opened])
  | reset =>
    refine sound.goes found (history_holdsLock _) (cleared_history _ rfl ?_ ?_) (opened_history _ rfl)
    · intro zero younger
      exact absurd (by rw [Config.oldest,zero]; rfl) younger
    · intro pos younger
      exact absurd (Nat.max_eq_left (Nat.pos_of_ne_zero pos)).symm younger
  | access index =>
    dsimp only [SimpleLogger.advance]
    split_ifs with missing
    · refine sound.goes found (history_holdsLock _) (cleared_history _ rfl ?_ ?_) (opened_history _ rfl)
      · intro last younger
        have one : index = 1 := by have := cleared.1; omega
        rw [← one]
        exact cleared.2 (one ▸ younger.symm)
      · exact fun _ _ => Disk.free_iff.mpr missing
    · exact sound.goes found rfl cleared (by simp [Opened])
  | rename index => exact sound.history found
  | accessCurrent =>
    dsimp only [SimpleLogger.advance]
    split_ifs
    · exact sound.goes found rfl trivial (by simp [Opened])
    · exact sound.goes found rfl cleared (by simp [Opened])
  | renameCurrent =>
    exact sound.renames found rfl Nat.one_pos (fun younger => cleared younger.symm) rfl trivial
      (by simp [Opened])
  | create =>
    have free := Disk.free_iff.mp (undisturbed rfl)
    dsimp only [SimpleLogger.advance]
    rw [Disk.openExclusive,free]
    exact (sound.grows grows_create).goes found rfl trivial (by simp [Opened])
  | unlock =>
    refine sound.set ?_ trivial fun _ => opened (Or.inr (Or.inr rfl))
    apply sound.owned.releases
    · rw [found,needsLock_some]
      rfl
    · simp [needsLock_some,Point.holdsLock]

theorem Sound.construct (cfg : Config) : Sound (construct process cfg state) := by
  unfold SimpleLogger.construct
  split
  · exact sound
  · rename_i absent
    refine (sound.grows grows_openOrCreate).set ?_ trivial (by simp [Opened])
    apply sound.owned.keeps
    simp [absent,NeedsLock,Point.holdsLock]

theorem Sound.destroy : Sound (destroy process state) := by
  unfold SimpleLogger.destroy
  split
  · rename_i cfg fd found
    refine ⟨?_,sound.kept,sound.unused,?_,?_⟩
    · apply sound.owned.keeps
      simp [found,NeedsLock,Point.holdsLock]
    · intro other inside there
      exact sound.cleared other inside (of_update_none there)
    · intro other inside there
      exact sound.opened other inside (of_update_none there)
  · exact sound

end

variable {header text : Bytes}

theorem record_short (short : header.length + text.length < cfg.recordLimit) :
    record cfg header text = header ++ text ++ [newline] := by
  rw [record,take_of_length_le]
  omega

theorem Sound.print (sound : Sound state) (short : Short state (.print process header text))
    (undisturbed : Undisturbed state (.print process header text)) :
    Sound (print process header text state) := by
  unfold SimpleLogger.print
  split
  · rename_i cfg fd found
    obtain ⟨linked,atEnd⟩ := undisturbed _ found rfl fd rfl
    have grown := sound.grows (grows_write (record cfg header text) atEnd)
    have added : Sound {state with
        disk := (state.disk.write (record cfg header text) fd).1
        lines := state.lines ++ [⟨header ++ text ++ [newline],fd.file,false⟩]} := by
      refine {grown with kept := ?_}
      refine forall_mem_append.mpr ⟨grown.kept,forall_mem_singleton.mpr fun _ => ?_⟩
      rw [← record_short (short _ found)]
      exact ⟨linked.write _ fd,Disk.infix_written _ atEnd⟩
    exact added.goes found rfl trivial (by simp [Opened])
  · exact sound

theorem Sound.step (sound : Sound state) {act : Action} (short : Short state act)
    (undisturbed : Undisturbed state act) : Sound (step state act).1 := by
  cases act with
  | construct process cfg => exact sound.construct cfg
  | destroy process => exact sound.destroy
  | print process header text => exact sound.print short undisturbed
  | advance process =>
    dsimp only [SimpleLogger.step]
    split
    · exact sound
    · rename_i logger found
      exact sound.advance found (undisturbed logger found)

end

/-- In an undisturbed run no line is lost and no logger is left without a descriptor. -/
theorem lines_kept (actions : List Action)
    (met : Run.Meets (fun state action => Short state action ∧ Undisturbed state action) step
      .empty actions) :
    Safe (final step .empty actions) := by
  apply Sound.safe
  refine invariant Sound ?_ _ _ sound_empty met
  intro state action sound ⟨short,undisturbed⟩
  exact sound.step short undisturbed

def single : Config := ⟨1024,1,8192,by decide⟩

/-- The only process writes a line that is too long for a file, and rotates. -/
def rotated : List Action :=
  .construct 0 single :: .print 0 [] (List.replicate 1100 120) :: List.replicate 10 (.advance 0)

def inTurn : List Action := rotated ++ [.print 0 [] [97,97],.construct 1 single,.print 1 [] [98]]

theorem lines_kept_inTurn : (final step .empty inTurn).lines.length = 3 ∧ Safe (final step .empty inTurn) :=
  ⟨by decide +kernel,lines_kept inTurn (by decide +kernel)⟩

def overwritten : List Action := rotated ++ [.construct 1 single,.print 1 [] [98],.print 0 [] [97,97]]

theorem line_overwritten :
    Run.Meets Short step .empty overwritten ∧ ¬ Safe (final step .empty overwritten) := by
  refine ⟨by decide +kernel,?_⟩
  intro safe
  have present := safe.lines ⟨[98,newline],1,false⟩ (by decide +kernel)
  have absent : ¬ Present (final step .empty overwritten) ⟨[98,newline],1,false⟩ := by decide +kernel
  exact absent present

end Mooon.SimpleLogger

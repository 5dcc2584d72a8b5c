import Mooon.DbProxy.SqlLog
import Mooon.Decimal
import Mooon.Run

/-! `CDbProcess` from its construction on: what its `_progress` finds in memory, the record that
`get_progress` loads over it, and what every pass over the directory decides on each file. The bytes of
`_progress` are followed by those of the members behind it, where a C string without an end goes on. -/
namespace Mooon.DbProxy.StartUp
open List Run

def smaller : Bytes → Bytes → Bool
  | _, [] => false
  | [], _::_ => true
  | first::firsts, second::seconds => first.toNat < second.toNat || (first = second && smaller firsts seconds)

theorem smaller_irrefl {name : Bytes} : smaller name name = false := by
  induction name with
  | nil => rfl
  | cons byte rest ih => simp [smaller,ih]

theorem not_smaller_trans {first second third : Bytes} (one : smaller first second = false)
    (two : smaller second third = false) : smaller first third = false := by
  induction third generalizing first second with
  | nil => cases first <;> rfl
  | cons c third ih =>
    cases second with
    | nil => simp [smaller] at two
    | cons b second =>
      cases first with
      | nil => simp [smaller] at one
      | cons a first =>
        simp only [smaller,Bool.or_eq_false_iff,decide_eq_false_iff_not,Bool.and_eq_false_imp,
          decide_eq_true_eq] at *
        refine ⟨by omega,?_⟩
        intro same
        subst same
        have equal : a = b := UInt8.toNat_inj.mp (by omega)
        exact ih (one.2 equal) (two.2 equal.symm)

def isSqlLogFilename (filename : Bytes) : Bool :=
  match filename.splitOn 46 with
  | [first,second,third] =>
    first = [115,113,108] && second.length = 13 && third.length = 6 && second.all isDigit && third.all isDigit
  | _ => false

variable {filename : Bytes}

section
variable (valid : isSqlLogFilename filename = true)
include valid

theorem isSqlLogFilename_parts :
    ∃ second third : Bytes, filename = [115,113,108] ++ [46] ++ second ++ [46] ++ third ∧
      second.length = 13 ∧ third.length = 6 ∧ second.all isDigit ∧ third.all isDigit := by
  have joined : [46].intercalate (filename.splitOn 46) = filename := intercalate_splitOn 46
  unfold isSqlLogFilename at valid
  split at valid
  · rename_i first second third parts
    simp only [Bool.and_eq_true,decide_eq_true_eq] at valid
    obtain ⟨⟨⟨⟨rfl,long⟩,short⟩,digits⟩,digits'⟩ := valid
    refine ⟨second,third,?_,long,short,digits,digits'⟩
    rw [← joined,parts]
    simp
  · cases valid

theorem isSqlLogFilename_length : filename.length = 24 := by
  obtain ⟨second,third,rfl,long,short,_,_⟩ := isSqlLogFilename_parts valid
  simp [long,short]

theorem isSqlLogFilename_terminated : 0 ∉ filename := by
  obtain ⟨second,third,rfl,_,_,digits,digits'⟩ := isSqlLogFilename_parts valid
  intro zero
  simp only [mem_append] at zero
  have digit : isDigit 0 = false := rfl
  have absent : ∀ part : Bytes, part.all isDigit → 0 ∉ part := by
    intro part all mem
    have := all_eq_true.mp all 0 mem
    cases this
  rcases zero with (((first | dot) | mem) | dot) | mem
  · revert first
    decide
  · revert dot
    decide
  · exact absent second digits mem
  · revert dot
    decide
  · exact absent third digits' mem

end

/-- `strcmp` promises only the sign of its result; the checksum is zlib's. -/
structure Setting where
  strcmp : Bytes → Bytes → Int
  crc32 : Bytes → UInt32
  sqlFileSize : UInt32
  less : ∀ first second, strcmp first second < 0 ↔ smaller first second = true
  equal : ∀ first second, strcmp first second = 0 ↔ first = second

def progressSize : Nat := 36

section
variable (memory : Bytes) (setting : Setting)

def crc32At : UInt32 := UInt32.ofNat (ofBytes (memory.take 4))

def offsetAt : UInt32 := UInt32.ofNat (ofBytes ((memory.drop 4).take 4))

def filenameAt : Bytes := (memory.drop 8).takeWhile (· ≠ 0)

def getCrc32 (offset : UInt32) (filename : Bytes) : UInt32 :=
  setting.crc32 (decimal offset.toNat ++ filename)

inductive ProgressFile where
  | absent
  | unreadable
  | present (bytes : Bytes)

/-- The constructor clears nothing: `memset` is called with the value and the size exchanged. -/
def getProgress (memory : Bytes) : ProgressFile → Option Bytes
  | .absent => some memory
  | .unreadable => none
  | .present bytes =>
    let read := bytes.take progressSize
    if read = [] then some memory
    else if read.length ≠ progressSize then none
    else
      let loaded := read ++ memory.drop progressSize
      if getCrc32 setting (offsetAt loaded) (filenameAt loaded) = crc32At loaded then some loaded else none

def strncpy (filename : Bytes) (size : Nat) : Bytes :=
  filename.take size ++ List.replicate (size - filename.length) 0

def updateProgress (memory filename : Bytes) (offset : UInt32) : Bytes :=
  bytesOf 4 (getCrc32 setting offset filename).toNat ++ bytesOf 4 offset.toNat ++
    strncpy filename 25 ++ memory.drop 33

def fileHandled (memory filename : Bytes) : Prop :=
  filenameAt memory ≠ [] ∧ setting.strcmp filename (filenameAt memory) = -1
deriving Decidable

def isCurrentFile (memory filename : Bytes) : Prop :=
  setting.strcmp filename (filenameAt memory) = 0
deriving Decidable

def startOffset (memory filename : Bytes) : UInt32 :=
  if isCurrentFile setting memory filename then offsetAt memory else 0

end

variable {setting : Setting} {memory : Bytes} {offset : UInt32}

theorem updateProgress_drop :
    (updateProgress setting memory filename offset).drop 4 =
      bytesOf 4 offset.toNat ++ (strncpy filename 25 ++ memory.drop 33) := by
  unfold updateProgress
  exact drop_left' (length_bytesOf 4 _)

theorem offsetAt_updateProgress :
    offsetAt (updateProgress setting memory filename offset) = offset := by
  unfold offsetAt
  rw [updateProgress_drop,take_left' (length_bytesOf 4 _),ofBytes_bytesOf 4 _ offset.toNat_lt]
  exact UInt32.ofNat_toNat

theorem filenameAt_updateProgress (setting : Setting) (memory : Bytes) (offset : UInt32)
    (valid : isSqlLogFilename filename = true) :
    filenameAt (updateProgress setting memory filename offset) = filename := by
  have length := isSqlLogFilename_length valid
  have terminated := isSqlLogFilename_terminated valid
  have copied : strncpy filename 25 = filename ++ [0] := by
    unfold strncpy
    rw [take_of_length_le (by omega),length]
    rfl
  have behind : (updateProgress setting memory filename offset).drop 8 =
      filename ++ (0 :: memory.drop 33) := by
    rw [show 8 = 4 + 4 from rfl,← drop_drop,updateProgress_drop,copied]
    simp
  unfold filenameAt
  rw [behind,takeWhile_append_of_pos]
  · simp
  · intro byte mem
    simp only [decide_not,Bool.not_eq_eq_eq_not,Bool.not_true,decide_eq_false_iff_not]
    rintro rfl
    exact terminated mem

/-- What `sql.progress` holds, or what `update_progress` has put there since. -/
inductive Saved where
  | nothing
  | record (filename : Bytes) (offset : UInt32)
  | corrupt
deriving DecidableEq

section
variable (setting : Setting) (memory : Bytes) (process : Process)

def savedIn : ProgressFile → Saved
  | .absent => .nothing
  | .unreadable => .corrupt
  | .present bytes =>
    let read := bytes.take progressSize
    let loaded := read ++ memory.drop progressSize
    if read = [] then .nothing
    else if read.length = progressSize ∧ getCrc32 setting (offsetAt loaded) (filenameAt loaded) =
      crc32At loaded then
      .record (filenameAt loaded) (offsetAt loaded)
    else .corrupt

inductive Phase where
  | stopped
  | between
  | handling (filename : Bytes) (position : Nat) (offset : UInt32)
deriving DecidableEq

structure Process where
  memory : Bytes
  todo : List Bytes
  phase : Phase
  saved : Saved

/-- `prepared` says whether the history directory could be made and `sql.progress` be opened for writing. -/
def run (file : ProgressFile) (prepared : Bool) : Process :=
  match getProgress setting memory file, prepared with
  | some loaded, true => ⟨loaded,[],.between,savedIn setting memory file⟩
  | some loaded, false => ⟨loaded,[],.stopped,savedIn setting memory file⟩
  | none, _ => ⟨memory,[],.stopped,savedIn setting memory file⟩

/-- `failed` is a read that returns -1. A statement is tried again until the server has executed or
rejected it. -/
inductive Result where
  | failed
  | rejected
  | executed (written : Bool)
deriving DecidableEq

inductive Action where
  | list (filenames : List Bytes)
  | enter (opened : Bool)
  | read (content : Bytes) (result : Result)

inductive Effect where
  | nothing
  | archives (filename : Bytes)
  | opens (filename : Bytes) (offset : UInt32)
  | executes (filename : Bytes) (position : Nat) (sql : Bytes)
deriving DecidableEq

def sorted (filenames : List Bytes) : List Bytes :=
  filenames.insertionSort fun first second => smaller second first = false

/-- One file of `handle_directory`. What a rename or an `open` achieves shows in the next listing. -/
def handleEntry (filename : Bytes) (rest : List Bytes) (opened : Bool) :
    Process × Effect :=
  if fileHandled setting process.memory filename then ({process with todo := rest},.archives filename)
  else
    let offset := startOffset setting process.memory filename
    let phase := if opened then .handling filename offset.toNat offset else .between
    ({process with todo := rest, phase},.opens filename offset)

def handleRecord (filename : Bytes) (position : Nat) (offset : UInt32)
    (content : Bytes) : Result → Process × Effect
  | .failed => ({process with phase := .between},.nothing)
  | result =>
    match readRecord (content.drop position) with
    | .eof =>
      if setting.sqlFileSize ≤ offset then ({process with phase := .between},.archives filename)
      else (process,.nothing)
    | .died => ({process with phase := .stopped},.nothing)
    | .record sql rest =>
      let position' := content.length - rest.length
      let offset' := offset + UInt32.ofNat (position' - position)
      match result with
      | .executed written =>
        let memory := updateProgress setting process.memory filename offset'
        let phase := if written then .handling filename position' offset' else .between
        ({process with memory, phase, saved := .record filename offset'},.executes filename position sql)
      | _ => ({process with phase := .handling filename position' offset'},.executes filename position sql)

def step : Action → Process × Effect
  | .list filenames =>
    match process.phase, process.todo with
    | .between, [] => ({process with todo := (sorted filenames).filter isSqlLogFilename},.nothing)
    | _, _ => (process,.nothing)
  | .enter opened =>
    match process.phase, process.todo with
    | .between, filename::rest => handleEntry setting process filename rest opened
    | _, _ => (process,.nothing)
  | .read content result =>
    match process.phase with
    | .handling filename position offset =>
      handleRecord setting process filename position offset content result
    | _ => (process,.nothing)

def decision : Saved → Bytes → Effect
  | .nothing, filename => .opens filename 0
  | .record reached offset, filename =>
    if smaller filename reached then .archives filename
    else if filename = reached then .opens filename offset
    else .opens filename 0
  | .corrupt, _ => .nothing

def Sound : Action → Prop
  | .enter opened => ∀ filename rest, process.phase = .between → process.todo = filename::rest →
    (step setting process (.enter opened)).2 = decision process.saved filename
  | _ => True

/-- A smaller name compares as -1 with the saved one. Without a saved one, the memory has an empty name,
or one that does not stop the file. -/
def Comparable : Saved → Bytes → Prop
  | .nothing, filename => filenameAt memory = [] ∨
    (setting.strcmp filename (filenameAt memory) ≠ -1 ∧ (filename = filenameAt memory → offsetAt memory = 0))
  | .record reached _, filename => smaller filename reached = true → setting.strcmp filename reached = -1
  | .corrupt, _ => True

def Distinguished : Action → Prop
  | .enter _ => ∀ filename rest, process.phase = .between → process.todo = filename::rest →
    Comparable setting process.memory process.saved filename
  | _ => True

def Saved.LoadedIn : Saved → Prop
  | .nothing => True
  | .record filename offset => filenameAt memory = filename ∧ offsetAt memory = offset
  | .corrupt => False

end

structure Tracked (process : Process) : Prop where
  listed : ∀ filename ∈ process.todo, isSqlLogFilename filename = true
  handled : ∀ filename position offset, process.phase = .handling filename position offset →
    isSqlLogFilename filename = true
  loaded : process.phase ≠ .stopped → process.saved.LoadedIn process.memory

section
variable {setting : Setting} {opened : Bool}

theorem handleEntry_effect {process : Process} {rest : List Bytes} :
    (handleEntry setting process filename rest opened).2 =
      if fileHandled setting process.memory filename then .archives filename
      else .opens filename (startOffset setting process.memory filename) := by
  unfold handleEntry
  split <;> rfl

variable {filename : Bytes} {memory : Bytes}

theorem smaller_of_fileHandled (handled : fileHandled setting memory filename) :
    smaller filename (filenameAt memory) = true := by
  apply (setting.less _ _).mp
  rw [handled.2]
  decide

theorem startOffset_eq :
    startOffset setting memory filename = if filename = filenameAt memory then offsetAt memory else 0 := by
  unfold startOffset isCurrentFile
  simp only [setting.equal]

variable {process : Process} {rest : List Bytes} {opened : Bool}

theorem decision_iff_nothing (some : filename ≠ []) :
    (handleEntry setting process filename rest opened).2 = .opens filename 0 ↔
      Comparable setting process.memory .nothing filename := by
  rw [handleEntry_effect]
  unfold Comparable
  by_cases empty : filenameAt process.memory = []
  · have unhandled : ¬ fileHandled setting process.memory filename := fun handled => handled.1 empty
    rw [if_neg unhandled,startOffset_eq,if_neg (by rwa [empty])]
    simp [empty]
  · by_cases handled : fileHandled setting process.memory filename
    · rw [if_pos handled]
      simp [empty,handled.2]
    · have compared : setting.strcmp filename (filenameAt process.memory) ≠ -1 :=
        fun one => handled ⟨empty,one⟩
      rw [if_neg handled,startOffset_eq]
      simp [empty,compared]

variable {reached : Bytes} {offset : UInt32}

theorem decision_iff_record (loaded : (Saved.record reached offset).LoadedIn process.memory) :
    (handleEntry setting process filename rest opened).2 = decision (.record reached offset) filename ↔
      Comparable setting process.memory (.record reached offset) filename := by
  obtain ⟨rfl,rfl⟩ := loaded
  rw [handleEntry_effect]
  unfold decision Comparable
  by_cases less : smaller filename (filenameAt process.memory) = true
  · have some : filenameAt process.memory ≠ [] := by
      intro empty
      rw [empty] at less
      cases filename <;> cases less
    simp [less,fileHandled,some]
  · have unhandled : ¬ fileHandled setting process.memory filename :=
      fun handled => less (smaller_of_fileHandled handled)
    rw [if_neg unhandled,startOffset_eq]
    simp only [less]
    split <;> simp

variable {act : Action}

theorem sound_iff_distinguished (tracked : Tracked process) :
    Sound setting process act ↔ Distinguished setting process act := by
  cases act with
  | list | read => exact Iff.rfl
  | enter opened =>
    refine forall_congr' fun filename => forall_congr' fun rest => forall_congr' fun between =>
      forall_congr' fun todo => ?_
    have loaded := tracked.loaded (by rw [between]; simp)
    have entered : step setting process (.enter opened) =
        handleEntry setting process filename rest opened := by
      simp only [step,between,todo]
    have valid := tracked.listed filename (by rw [todo]; exact mem_cons_self)
    rw [entered]
    cases saved : process.saved with
    | nothing =>
      apply decision_iff_nothing
      rintro rfl
      cases isSqlLogFilename_length valid
    | record reached offset =>
      apply decision_iff_record
      rwa [saved] at loaded
    | corrupt =>
      rw [saved] at loaded
      exact loaded.elim

theorem handleEntry_tracked (tracked : Tracked process)
    (between : process.phase = .between) (todo : process.todo = filename::rest) :
    Tracked (handleEntry setting process filename rest opened).1 := by
  have loaded := tracked.loaded (by rw [between]; simp)
  have valid := tracked.listed filename (by rw [todo]; exact mem_cons_self)
  have later : ∀ other ∈ rest, isSqlLogFilename other = true := by
    intro other mem
    exact tracked.listed other (by rw [todo]; exact mem_cons_of_mem _ mem)
  unfold handleEntry
  split
  · exact ⟨later,tracked.handled,fun _ => loaded⟩
  · refine ⟨later,?_,fun _ => loaded⟩
    intro other pos offset handling
    cases opened with
    | false => cases handling
    | true =>
      cases handling
      exact valid

def Phase.Only (filename : Bytes) (phase : Phase) : Prop :=
  ∀ other position offset, phase = .handling other position offset → other = filename

variable {position : Nat} {content : Bytes} {res : Result}

theorem handleRecord_cases
    (handling : process.phase = .handling filename position offset) :
    (∃ phase effect, handleRecord setting process filename position offset content res =
      ({process with phase},effect) ∧
      phase.Only filename ∧ (effect = .nothing ∨ effect = .archives filename)) ∨
    (∃ phase sql, handleRecord setting process filename position offset content res =
      ({process with phase},.executes filename position sql) ∧ phase.Only filename) ∨
    ∃ phase sql later, handleRecord setting process filename position offset content res =
      (⟨updateProgress setting process.memory filename later,process.todo,phase,.record filename later⟩,
        .executes filename position sql) ∧ phase.Only filename := by
  have leaves : Phase.between.Only filename := by intro _ _ _ same; cases same
  have stops : Phase.stopped.Only filename := by intro _ _ _ same; cases same
  have stays : ∀ position offset, (Phase.handling filename position offset).Only filename := by
    intro _ _ _ _ _ same
    cases same
    rfl
  cases res with
  | failed => exact .inl ⟨_,_,rfl,leaves,.inl rfl⟩
  | rejected =>
    simp only [handleRecord]
    cases readRecord (content.drop position) with
    | eof =>
      dsimp only
      split
      · exact .inl ⟨_,_,rfl,leaves,.inr rfl⟩
      · exact .inl ⟨process.phase,_,rfl,handling ▸ stays _ _,.inl rfl⟩
    | died => exact .inl ⟨_,_,rfl,stops,.inl rfl⟩
    | record sql rest => exact .inr (.inl ⟨_,sql,rfl,stays _ _⟩)
  | executed written =>
    simp only [handleRecord]
    cases readRecord (content.drop position) with
    | eof =>
      dsimp only
      split
      · exact .inl ⟨_,_,rfl,leaves,.inr rfl⟩
      · exact .inl ⟨process.phase,_,rfl,handling ▸ stays _ _,.inl rfl⟩
    | died => exact .inl ⟨_,_,rfl,stops,.inl rfl⟩
    | record sql rest =>
      refine .inr (.inr ⟨_,sql,_,rfl,?_⟩)
      cases written with
      | false => exact leaves
      | true => exact stays _ _

theorem handleRecord_tracked (tracked : Tracked process)
    (handling : process.phase = .handling filename position offset) :
    Tracked (handleRecord setting process filename position offset content res).1 := by
  have loaded := tracked.loaded (by rw [handling]; simp)
  have valid := tracked.handled _ _ _ handling
  have handles : ∀ phase : Phase, phase.Only filename →
      ∀ other position offset, phase = .handling other position offset → isSqlLogFilename other = true := by
    intro phase only other position offset same
    rw [only _ _ _ same]
    exact valid
  rcases handleRecord_cases handling with ⟨phase,effect,same,only,_⟩ | ⟨phase,sql,same,only⟩ |
    ⟨phase,sql,later,same,only⟩
  · rw [same]
    exact ⟨tracked.listed,handles phase only,fun _ => loaded⟩
  · rw [same]
    exact ⟨tracked.listed,handles phase only,fun _ => loaded⟩
  · rw [same]
    exact ⟨tracked.listed,handles phase only,fun _ =>
      ⟨filenameAt_updateProgress setting _ _ valid,offsetAt_updateProgress⟩⟩

theorem step_tracked (tracked : Tracked process) : Tracked (step setting process act).1 := by
  unfold step
  cases act with
  | list filenames =>
    dsimp only
    split
    · refine ⟨?_,tracked.handled,tracked.loaded⟩
      intro filename mem
      exact (mem_filter.mp mem).2
    · exact tracked
  | enter opened =>
    dsimp only
    split
    · rename_i filename rest between todo
      exact handleEntry_tracked tracked between todo
    · exact tracked
  | read content res =>
    dsimp only
    split
    · rename_i handling
      exact handleRecord_tracked tracked handling
    · exact tracked

variable {ready : Bool}

theorem run_saved {file : ProgressFile} :
    (run setting memory file ready).saved = savedIn setting memory file := by
  unfold run
  split <;> rfl

variable {file : ProgressFile}

theorem getProgress_loaded {loaded : Bytes}
    (got : getProgress setting memory file = some loaded) :
    (savedIn setting memory file).LoadedIn loaded := by
  cases file with
  | absent => trivial
  | unreadable => cases got
  | present bytes =>
    simp only [getProgress] at got
    simp only [savedIn]
    split_ifs at got with empty short matching
    · rw [if_pos empty]
      trivial
    · rw [if_neg empty,if_pos ⟨not_not.mp short,matching⟩]
      cases got
      exact ⟨rfl,rfl⟩

theorem getProgress_corrupt (corrupt : savedIn setting memory file = .corrupt) :
    getProgress setting memory file = none := by
  cases got : getProgress setting memory file with
  | none => rfl
  | some loaded =>
    have := getProgress_loaded got
    rw [corrupt] at this
    exact this.elim

theorem run_tracked : Tracked (run setting memory file ready) := by
  unfold run
  split
  · rename_i got
    exact ⟨by simp,by simp,fun _ => getProgress_loaded got⟩
  · exact ⟨by simp,by simp,fun running => absurd rfl running⟩
  · exact ⟨by simp,by simp,fun running => absurd rfl running⟩

/-- From the saved name on: the name being handled and the one saved since are not smaller. -/
structure From (reached : Bytes) (process : Process) : Prop where
  saved : ∃ filename offset, process.saved = .record filename offset ∧ smaller filename reached = false
  handled : ∀ filename position offset, process.phase = .handling filename position offset →
    smaller filename reached = false

def Effect.From (reached : Bytes) : Effect → Prop
  | .executes filename _ _ => smaller filename reached = false
  | _ => True

theorem handleEntry_from (bound : From reached process) (loaded : process.saved.LoadedIn process.memory)
    (comparable : Comparable setting process.memory process.saved filename) :
    From reached (handleEntry setting process filename rest opened).1 := by
  obtain ⟨name,offset,saved,larger⟩ := bound.saved
  rw [saved] at comparable loaded
  unfold handleEntry
  split
  · exact ⟨bound.saved,bound.handled⟩
  · rename_i unhandled
    refine ⟨bound.saved,?_⟩
    have reaches : smaller filename name = false := by
      by_contra less
      have compared := comparable (Bool.eq_true_of_not_eq_false less)
      obtain ⟨rfl,rfl⟩ := loaded
      refine unhandled ⟨?_,compared⟩
      intro empty
      rw [empty] at less
      cases filename <;> exact less rfl
    intro other position offset handling
    cases opened with
    | false => cases handling
    | true =>
      cases handling
      exact not_smaller_trans reaches larger

theorem step_from (tracked : Tracked process) (bound : From reached process)
    (distinguished : Distinguished setting process act) : From reached (step setting process act).1 := by
  unfold step
  cases act with
  | list filenames =>
    dsimp only
    split
    · exact ⟨bound.saved,bound.handled⟩
    · exact bound
  | enter opened =>
    dsimp only
    split
    · rename_i filename rest between todo
      have loaded := tracked.loaded (by rw [between]; simp)
      exact handleEntry_from bound loaded (distinguished filename rest between todo)
    · exact bound
  | read content res =>
    dsimp only
    split
    · rename_i filename position offset handling
      have larger := bound.handled _ _ _ handling
      rcases handleRecord_cases handling with ⟨phase,effect,same,only,_⟩ | ⟨phase,sql,same,only⟩ |
        ⟨phase,sql,later,same,only⟩
      · rw [same]
        exact ⟨bound.saved,fun other _ _ now => only other _ _ now ▸ larger⟩
      · rw [same]
        exact ⟨bound.saved,fun other _ _ now => only other _ _ now ▸ larger⟩
      · rw [same]
        exact ⟨⟨filename,later,rfl,larger⟩,fun other _ _ now => only other _ _ now ▸ larger⟩
    · exact bound

theorem effect_from (bound : From reached process) : (step setting process act).2.From reached := by
  unfold step
  cases act with
  | list filenames =>
    dsimp only
    split <;> trivial
  | enter opened =>
    dsimp only
    split
    · rw [handleEntry_effect]
      split <;> trivial
    · trivial
  | read content res =>
    dsimp only
    split
    · rename_i handling
      have larger := bound.handled _ _ _ handling
      rcases handleRecord_cases handling with ⟨phase,effect,same,_,rfl | rfl⟩ | ⟨phase,sql,same,_⟩ |
        ⟨phase,sql,later,same,_⟩
      · rw [same]
        trivial
      · rw [same]
        trivial
      · rw [same]
        exact larger
      · rw [same]
        exact larger
    · trivial

theorem step_stopped (stopped : process.phase = .stopped) :
    step setting process act = (process,.nothing) := by
  cases act <;> simp only [step,stopped]

theorem outputs_stopped (stopped : process.phase = .stopped) {acts : List Action} :
    ∀ effect ∈ outputs (step setting) process acts, effect = .nothing := by
  induction acts with
  | nil => simp
  | cons act rest ih =>
    rw [outputs_cons,step_stopped stopped]
    exact forall_mem_cons.mpr ⟨rfl,ih⟩

end

/-- Exactly where every smaller name compares as -1, and a memory without a saved record stops no file, each
pass archives the files before the saved name, goes on in that file at the saved offset, and opens every other
one at its beginning. Then no statement of a smaller file is executed in the whole run, and a corrupt record
stops the process before it does anything. -/
theorem resumes_iff (setting : Setting) (memory : Bytes) (file : ProgressFile) (prepared : Bool)
    (actions : List Action) :
    (Run.Meets (Sound setting) (step setting) (run setting memory file prepared) actions ↔
      Run.Meets (Distinguished setting) (step setting) (run setting memory file prepared) actions) ∧
    (Run.Meets (Distinguished setting) (step setting) (run setting memory file prepared) actions →
      ∀ reached offset, savedIn setting memory file = .record reached offset →
        ∀ effect ∈ outputs (step setting) (run setting memory file prepared) actions, effect.From reached) ∧
    (savedIn setting memory file = .corrupt →
      ∀ effect ∈ outputs (step setting) (run setting memory file prepared) actions, effect = .nothing) := by
  refine ⟨?_,?_,?_⟩
  · exact meets_congr Tracked _ actions (fun _ action _ tracked _ => step_tracked tracked)
      (fun _ action _ tracked => sound_iff_distinguished tracked) run_tracked
  · intro distinguished reached offset saved
    have start : From reached (run setting memory file prepared) := by
      refine ⟨⟨reached,offset,run_saved.trans saved,smaller_irrefl⟩,?_⟩
      intro filename position offset handling
      unfold run at handling
      split at handling <;> cases handling
    exact outputs_all (fun process => Tracked process ∧ From reached process) (Effect.From reached)
      (fun _ action holds distinguished => ⟨step_tracked holds.1,step_from holds.1 holds.2 distinguished⟩)
      (fun _ action holds _ => effect_from holds.2) _ actions ⟨run_tracked,start⟩
      distinguished
  · intro corrupt
    have stopped : (run setting memory file prepared).phase = .stopped := by
      unfold run
      rw [getProgress_corrupt corrupt]
    exact outputs_stopped stopped

def byteStrcmp : Bytes → Bytes → Int
  | [], [] => 0
  | [], second::_ => -1 - second.toNat
  | first::_, [] => 1 + first.toNat
  | first::firsts, second::seconds => if first = second then
    byteStrcmp firsts seconds else first.toNat - second.toNat

variable (first second : Bytes)

theorem byteStrcmp_less : byteStrcmp first second < 0 ↔ smaller first second = true := by
  induction first generalizing second with
  | nil => cases second with
    | nil => simp [byteStrcmp,smaller]
    | cons b second => simp only [byteStrcmp,smaller,iff_true]; omega
  | cons a first ih => cases second with
    | nil => simp only [byteStrcmp,smaller,Bool.false_eq_true,iff_false]; omega
    | cons b second =>
      simp only [byteStrcmp,smaller]
      split_ifs with same
      · subst same
        simp [ih]
      · simp only [same]
        simp

theorem byteStrcmp_equal : byteStrcmp first second = 0 ↔ first = second := by
  induction first generalizing second with
  | nil => cases second with
    | nil => simp [byteStrcmp]
    | cons b second => simp only [byteStrcmp,reduceCtorEq,iff_false]; omega
  | cons a first ih => cases second with
    | nil => simp only [byteStrcmp,reduceCtorEq,iff_false]; omega
    | cons b second =>
      simp only [byteStrcmp,cons.injEq]
      split
      · rename_i same
        simp [same,ih]
      · rename_i ne
        have bytes : a.toNat ≠ b.toNat := fun same => ne (UInt8.toNat_inj.mp same)
        simp only [ne,false_and,iff_false]
        omega

def crc32 (bytes : Bytes) : UInt32 :=
  let shift (value : UInt32) : UInt32 := if value &&& 1 = 1 then (value >>> 1) ^^^ 0xEDB88320 else value >>> 1
  ~~~ bytes.foldl (fun value byte => Nat.repeat shift 8 (value ^^^ byte.toUInt32)) 0xFFFFFFFF

def byteSetting : Setting := ⟨byteStrcmp,crc32,10240,byteStrcmp_less,byteStrcmp_equal⟩

def signSetting : Setting where
  strcmp first second := (byteStrcmp first second).sign
  crc32 := crc32
  sqlFileSize := 10240
  less first second := by rw [Int.sign_neg_iff,byteStrcmp_less]
  equal first second := by rw [Int.sign_eq_zero_iff_zero,byteStrcmp_equal]

def sampleFilename (timestamp suffix : UInt8) : Bytes :=
  [115,113,108,46,48,48,48,48,48,48,48,48,48,48,48,48,48+timestamp,46,48,48,48,48,48,48+suffix]

def sampleProgress (setting : Setting) : Bytes :=
  updateProgress setting (List.replicate 36 0) (sampleFilename 5 1) 40

theorem resume_misled : ¬ Run.Meets (Sound byteSetting) (step byteSetting)
      (run byteSetting (replicate 36 0) (.present (sampleProgress byteSetting)) true)
      [.list [sampleFilename 0 1,sampleFilename 5 1],.enter true] ∧ ¬ Run.Meets (Sound signSetting)
      (step signSetting)
      (run signSetting (sampleProgress signSetting) .absent true)
      [.list [sampleFilename 0 1],.enter true] := by
  refine ⟨?_,?_⟩
  · intro met
    have sound := met.2.1 (sampleFilename 0 1) [sampleFilename 5 1] (by decide +kernel) (by decide +kernel)
    revert sound
    decide +kernel
  · intro met
    have sound := met.2.1 (sampleFilename 0 1) [] (by decide +kernel) (by decide +kernel)
    revert sound
    decide +kernel

end Mooon.DbProxy.StartUp

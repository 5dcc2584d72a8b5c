import Mooon.DbProxy.Handler

/-! The query cache over whole runs: threads that ask and are answered in any order, sweeps of the
cache, and new configurations. Each entry of the cache remembers the answer of MySQL that it holds.
-/
namespace Mooon.DbProxy.Handler.QueryCache
open Config List Run

/-- `pending` are the queries that MySQL has not answered yet, by their threads; `answered` are all
answers of MySQL, and `stored` those to templates that are cached. -/
structure State (Digest : Type) where
  tables : Tables
  connections : Nat → Connections
  pending : Nat → Option (QueryInfo × String)
  cache : Cache Digest
  answered : List Origin
  stored : List Origin
  clock : Nat
  lastSweep : Nat

def State.initial {Digest : Type} (tables : Tables) (now : Nat) : State Digest :=
  ⟨tables,fun _ _ => false,fun _ => none,.empty,[],[],now,now⟩

inductive Action where
  | load (tables : Tables)
  | ask (thread : Nat) (request : QueryRequest) (environment : Environment) (now : Nat)
  | answer (thread : Nat) (result : Except DbError DBTable) (now : Nat)
  | cleanup (now : Nat)

structure Hit (Digest : Type) where
  info : QueryInfo
  sql : String
  entry : CacheEntry Digest

section
variable {Digest : Type} [DecidableEq Digest]

section
variable (setting : Setting Digest) (state : State Digest) (thread : Nat)

def begun (request : QueryRequest)
    (environment : Environment) (now : Nat) : Connections × Cache Digest × Begun Digest :=
  beginQuery setting environment state.tables now (state.connections thread) state.cache request

def ask (request : QueryRequest)
    (environment : Environment) (now : Nat) : State Digest × Option (Hit Digest) :=
  match begun setting state thread request environment now with
  | (connections,cache,.ends _) =>
    ({state with
      connections := Function.update state.connections thread connections, cache, clock := now},none)
  | (connections,cache,.hit info sql entry) =>
    ({state with connections := Function.update state.connections thread connections, cache, clock := now},
      some ⟨info,sql,entry⟩)
  | (connections,cache,.asks info sql) =>
    ({state with
      connections := Function.update state.connections thread connections, cache, clock := now
      pending := Function.update state.pending thread (some (info,sql))},none)

def answer (info : QueryInfo) (sql : String)
    (result : Except DbError DBTable) (now : Nat) : State Digest :=
  let pending := Function.update state.pending thread none
  let cache := (finishQuery setting now info sql result state.cache).1
  match result with
  | .error _ => {state with pending, cache, clock := now}
  | .ok rows =>
    let origin : Origin := ⟨info.databaseIndex,sql,rows,now⟩
    {state with
      pending, cache, clock := now, answered := origin::state.answered
      stored := if 0 < info.cachedSeconds ∧ rows ≠ [] then origin::state.stored else state.stored}

def step : Action → State Digest × Option (Hit Digest)
  | .load tables => ({state with tables},none)
  | .ask thread request environment now =>
    match state.pending thread with
    | some _ => (state,none)
    | none => ask setting state thread request environment now
  | .answer thread result now =>
    match state.pending thread with
    | none => (state,none)
    | some (info,sql) => (answer setting state thread info sql result now,none)
  | .cleanup now => ({state with cache := cleanupCache now state.cache, clock := now, lastSweep := now},none)

end

variable {md5 : String → Digest} {now : Nat} {sql : String} {cache : Cache Digest} {entry : CacheEntry Digest}

theorem mem_getDataFromCache (mem : entry ∈ (getDataFromCache md5 now sql cache).1.table) :
    entry ∈ cache.table ∨ ∃ old ∈ cache.table, entry = {old with data.timestamp := now} := by
  unfold getDataFromCache at mem
  split at mem
  · exact .inl mem
  · dsimp only at mem
    rw [Table.mem_update] at mem
    obtain ⟨old,there,rfl⟩ := mem
    unfold CacheEntry.touch
    split
    · exact .inr ⟨old,there,rfl⟩
    · exact .inl there

variable {after : Cache Digest}

theorem getDataFromCache_some (got : getDataFromCache md5 now sql cache = (after,some entry)) :
    cache.table.find (md5 sql) = some entry := by
  unfold getDataFromCache at got
  split at got
  · cases got
  · rename_i found
    cases got
    exact found

theorem mem_addDataToCache {cacheNumber : Int} {cachedSeconds : Int} {origin : Origin}
    (mem : entry ∈ (addDataToCache md5 cacheNumber now cachedSeconds origin cache).table) :
    entry ∈ cache.table ∨ entry = ⟨md5 origin.sql,⟨now,cachedSeconds,origin.rows⟩,origin⟩ := by
  unfold addDataToCache at mem
  split at mem
  · exact .inl mem
  · dsimp only at mem
    split at mem
    · rename_i added
      exact ((Table.mem_insert added).mp mem).symm
    · rw [Table.mem_update] at mem
      obtain ⟨old,there,rfl⟩ := mem
      unfold CacheEntry.overwrite
      split
      · exact .inr rfl
      · exact .inl there

variable {setting : Setting Digest} {info : QueryInfo}

theorem mem_lookUp (mem : entry ∈ (lookUp setting now info sql cache).1.table) :
    entry ∈ cache.table ∨ ∃ old ∈ cache.table, entry = {old with data.timestamp := now} := by
  unfold lookUp at mem
  split at mem
  · exact .inl mem
  · have there : entry ∈ (getDataFromCache setting.md5 now sql cache).1.table := by
      split at mem
      · rename_i got
        rw [got]
        exact mem
      · rename_i got
        rw [got]
        exact mem
    exact mem_getDataFromCache there

theorem lookUp_hit {info' : QueryInfo} {sql' : String}
    (hit : lookUp setting now info sql cache = (after,.hit info' sql' entry)) :
    info' = info ∧ sql' = sql ∧ 1 ≤ info.cachedSeconds ∧ cache.table.find (setting.md5 sql) = some entry := by
  unfold lookUp at hit
  split at hit
  · cases hit
  · rename_i cachedSeconds
    split at hit
    · rename_i got
      cases hit
      exact ⟨rfl,rfl,by omega,getDataFromCache_some got⟩
    · cases hit

theorem mem_finishQuery {res : Except DbError DBTable}
    (mem : entry ∈ (finishQuery setting now info sql res cache).1.table) :
    entry ∈ cache.table ∨ ∃ rows, res = .ok rows ∧ (0 < info.cachedSeconds ∧ rows ≠ []) ∧
      entry = ⟨setting.md5 sql,⟨now,info.cachedSeconds,rows⟩,⟨info.databaseIndex,sql,rows,now⟩⟩ := by
  unfold finishQuery at mem
  split at mem
  · exact .inl mem
  · split at mem
    · rename_i cached
      rcases mem_addDataToCache mem with old | new
      · exact .inl old
      · exact .inr ⟨_,rfl,cached,new⟩
    · exact .inl mem

variable {setting : Setting Digest} {state : State Digest} {thread : Nat} {request : QueryRequest}
  {environment : Environment}

theorem mem_ask (mem : entry ∈ (begun setting state thread request environment now).2.1.table) :
    entry ∈ state.cache.table ∨ ∃ old ∈ state.cache.table, entry = {old with data.timestamp := now} := by
  unfold begun beginQuery at mem
  split at mem
  · exact .inl mem
  · split at mem
    · exact .inl mem
    · split at mem
      · exact .inl mem
      · exact .inl mem
      · split at mem
        · exact .inl mem
        · exact mem_lookUp mem

theorem begun_hit (hit : (begun setting state thread request environment now).2.2 = .hit info sql entry) :
    1 ≤ info.cachedSeconds ∧ state.cache.table.find (setting.md5 sql) = some entry := by
  unfold begun beginQuery at hit
  split at hit
  · cases hit
  · split at hit
    · cases hit
    · split at hit
      · cases hit
      · cases hit
      · split at hit
        · cases hit
        · obtain ⟨rfl,rfl,pos,found⟩ := lookUp_hit (Prod.ext rfl hit)
          exact ⟨pos,found⟩

theorem ask_cache : (ask setting state thread request environment now).1.cache =
      (begun setting state thread request environment now).2.1 := by
  unfold ask
  split <;> simp only [*]

variable {hit : Hit Digest}

theorem ask_hit (replied : (ask setting state thread request environment now).2 = some hit) :
    (begun setting state thread request environment now).2.2 = .hit hit.info hit.sql hit.entry := by
  unfold ask at replied
  split at replied
  · cases replied
  · rename_i same
    cases replied
    rw [same]
  · cases replied

variable {action : Action}

theorem mem_step (mem : entry ∈ (step setting state action).1.cache.table) :
    (entry ∈ state.cache.table ∧ ∀ now, action = .cleanup now → entry.fresh now = true) ∨
    (∃ old ∈ state.cache.table, ∃ thread request environment now, action =
      .ask thread request environment now ∧
      entry = {old with data.timestamp := now}) ∨
    ∃ thread rows now info sql, action = .answer thread (.ok rows) now ∧
      state.pending thread = some (info,sql) ∧
      0 < info.cachedSeconds ∧ entry.origin ∈ (step setting state action).1.stored ∧
      entry = ⟨setting.md5 sql,⟨now,info.cachedSeconds,rows⟩,⟨info.databaseIndex,sql,rows,now⟩⟩ := by
  cases action with
  | load tables => exact .inl ⟨mem,fun _ same => nomatch same⟩
  | ask thread request environment now =>
    simp only [step] at mem
    split at mem
    · exact .inl ⟨mem,fun _ same => nomatch same⟩
    · rw [ask_cache] at mem
      rcases mem_ask mem with old | ⟨old,there,same⟩
      · exact .inl ⟨old,fun _ same => nomatch same⟩
      · exact .inr (.inl ⟨old,there,thread,request,environment,now,rfl,same⟩)
  | answer thread res now =>
    simp only [step] at mem
    split at mem
    · exact .inl ⟨mem,fun _ same => nomatch same⟩
    · rename_i info sql asked
      have there : entry ∈ (finishQuery setting now info sql res state.cache).1.table := by
        unfold answer at mem
        split at mem <;> exact mem
      rcases mem_finishQuery there with old | ⟨rows,rfl,cached,rfl⟩
      · exact .inl ⟨old,fun _ same => nomatch same⟩
      · refine .inr (.inr ⟨thread,rows,now,info,sql,rfl,asked,cached.1,?_,rfl⟩)
        simp [step,asked,answer,cached]
  | cleanup now =>
    obtain ⟨old,fresh⟩ := Table.mem_filter.mp mem
    refine .inl ⟨old,?_⟩
    intro other same
    cases same
    exact fresh

theorem step_hit (replied : (step setting state action).2 = some hit) :
    ∃ thread request environment now, action = .ask thread request environment now ∧
      state.pending thread = none ∧
      (begun setting state thread request environment now).2.2 = .hit hit.info hit.sql hit.entry := by
  cases action with
  | load | cleanup => cases replied
  | answer thread res now =>
    simp only [step] at replied
    split at replied <;> cases replied
  | ask thread request environment now =>
    simp only [step] at replied
    split at replied
    · cases replied
    · rename_i free
      exact ⟨thread,request,environment,now,rfl,free,ask_hit replied⟩

structure Attributed (setting : Setting Digest) (state : State Digest) : Prop where
  key : ∀ entry ∈ state.cache.table, entry.key = setting.md5 entry.origin.sql
  rows : ∀ entry ∈ state.cache.table, entry.data.cachedData = entry.origin.rows
  origin : ∀ entry ∈ state.cache.table, entry.origin ∈ state.stored
  stored : ∀ origin ∈ state.stored, origin ∈ state.answered

theorem ask_answered : (ask setting state thread request environment now).1.stored = state.stored ∧
      (ask setting state thread request environment now).1.answered = state.answered := by
  unfold ask
  split <;> exact ⟨rfl,rfl⟩

theorem step_stored (action : Action) :
    ((step setting state action).1.stored = state.stored ∧ (step setting state action).1.answered =
      state.answered) ∨
    ∃ origin, (step setting state action).1.answered = origin::state.answered ∧
      ((step setting state action).1.stored = state.stored ∨
        (step setting state action).1.stored = origin::state.stored) := by
  cases action with
  | load | cleanup => exact .inl ⟨rfl,rfl⟩
  | ask thread request environment now =>
    simp only [step]
    split
    · exact .inl ⟨rfl,rfl⟩
    · exact .inl ask_answered
  | answer thread res now =>
    cases asked : state.pending thread with
    | none => exact .inl (by simp [step,asked])
    | some pair =>
      cases res with
      | error error => exact .inl (by simp [step,asked,answer])
      | ok rows =>
        simp only [step,asked,answer]
        refine .inr ⟨_,rfl,?_⟩
        split
        · exact .inr rfl
        · exact .inl rfl

theorem step_origins (stored : ∀ origin ∈ state.stored, origin ∈ state.answered) :
    (∀ origin ∈ state.stored, origin ∈ (step setting state action).1.stored) ∧
      ∀ origin ∈ (step setting state action).1.stored, origin ∈ (step setting state action).1.answered := by
  obtain ⟨same,same'⟩ | ⟨origin,answers,same | stores⟩ := @step_stored _ _ setting state action
  · rw [same,same']
    exact ⟨fun _ mem => mem,stored⟩
  · rw [same,answers]
    exact ⟨fun _ mem => mem,fun _ mem => mem_cons_of_mem _ (stored _ mem)⟩
  · rw [stores,answers]
    refine ⟨fun _ mem => mem_cons_of_mem _ mem,?_⟩
    exact forall_mem_cons.mpr ⟨mem_cons_self,fun _ mem => mem_cons_of_mem _ (stored _ mem)⟩

theorem step_attributed (attributed : Attributed setting state) :
    Attributed setting (step setting state action).1 := by
  obtain ⟨grows,replied⟩ :=
    step_origins attributed.stored
  have every : ∀ entry ∈ (step setting state action).1.cache.table, entry.key = setting.md5 entry.origin.sql ∧
      entry.data.cachedData = entry.origin.rows ∧ entry.origin ∈ (step setting state action).1.stored := by
    intro entry mem
    rcases mem_step mem with ⟨old,_⟩ | ⟨old,there,_,_,_,_,_,rfl⟩ | ⟨_,_,_,_,_,_,_,_,stored,rfl⟩
    · exact ⟨attributed.key entry old,attributed.rows entry old,grows _ (attributed.origin entry old)⟩
    · exact ⟨attributed.key old there,attributed.rows old there,grows _ (attributed.origin old there)⟩
    · exact ⟨rfl,rfl,stored⟩
  exact ⟨fun entry mem => (every entry mem).1,fun entry mem => (every entry mem).2.1,
    fun entry mem => (every entry mem).2.2,replied⟩

def statement : Begun Digest → Option (QueryInfo × String)
  | .ends _ => none
  | .hit info sql _ => some (info,sql)
  | .asks info sql => some (info,sql)

/-- An answer from the cache is one that MySQL has given for the statement on the template's database. -/
def FromDatabase (setting : Setting Digest) (state : State Digest) (action : Action) : Prop :=
  ∀ hit ∈ (step setting state action).2, ∃ origin ∈ state.answered,
    origin.database = hit.info.databaseIndex ∧ origin.sql = hit.sql ∧ origin.rows = hit.entry.data.cachedData

/-- No template of another database that is cached has been answered for the same statement. -/
def Unshared (setting : Setting Digest) (state : State Digest) : Action → Prop
  | .ask thread request environment now => state.pending thread = none →
    ∀ asked ∈ statement (begun setting state thread request environment now).2.2, 1 ≤ asked.1.cachedSeconds →
      ∀ origin ∈ state.stored, origin.sql = asked.2 → origin.database = asked.1.databaseIndex
  | _ => True

instance (setting : Setting Digest) (state : State Digest) : DecidablePred (Unshared setting state)
  | .ask thread request environment now => inferInstanceAs (Decidable (state.pending thread = none →
    ∀ asked ∈ statement (begun setting state thread request environment now).2.2, 1 ≤ asked.1.cachedSeconds →
      ∀ origin ∈ state.stored, origin.sql = asked.2 → origin.database = asked.1.databaseIndex))
  | .load _ | .answer _ _ _ | .cleanup _ => isTrue trivial

theorem fromDatabase_of_unshared (injective : Function.Injective setting.md5)
    (attributed : Attributed setting state)
    (unshared : Unshared setting state action) : FromDatabase setting state action := by
  intro hit replied
  obtain ⟨thread,request,environment,now,rfl,free,hits⟩ := step_hit replied
  obtain ⟨pos,found⟩ := begun_hit hits
  obtain ⟨there,key⟩ := Table.find_some found
  have stored := attributed.origin _ there
  have sql := injective ((attributed.key _ there).symm.trans key)
  refine ⟨hit.entry.origin,attributed.stored _ stored,?_,sql,(attributed.rows _ there).symm⟩
  exact unshared free (hit.info,hit.sql) (by rw [hits]; rfl) pos _ stored sql

end

/-- With a collision-free digest, every answer from the cache is one of the template's own database,
in every run in which no two databases have cached answers to one statement. -/
theorem cache_from_database {Digest : Type} [DecidableEq Digest] (setting : Setting Digest)
    (injective : Function.Injective setting.md5) (tables : Tables) (now : Nat) (actions : List Action)
    (unshared : Run.Meets (Unshared setting) (step setting) (.initial tables now) actions) :
    Run.Meets (FromDatabase setting) (step setting) (.initial tables now) actions := by
  have start : Attributed setting (State.initial tables now) := by
    constructor <;> intro entry member
    · exact absurd member (Table.not_mem_empty entry)
    · exact absurd member (Table.not_mem_empty entry)
    · exact absurd member (Table.not_mem_empty entry)
    · cases member
  exact meets_of_invariant (Attributed setting) (fun _ action attributed _ => step_attributed attributed)
    (fun _ action attributed unshared => fromDatabase_of_unshared injective attributed unshared) _
      actions start
    unshared

def sampleSetting : Setting String := ⟨id,10⟩

theorem sample_inside : (Slots.Inside maxDbConnection 0 ∧ Slots.Inside maxDbConnection 1) ∧
    Slots.Inside maxSqlTemplate 0 ∧ Slots.Inside maxSqlTemplate 1 := by
  decide

def sampleTables : Tables where
  databases := (Slots.empty.put ⟨"",0,"",3306,"","","",""⟩ sample_inside.1.1).put
    ⟨"",1,"",3307,"","","",""⟩ sample_inside.1.2
  queries := (Slots.empty.put ⟨0,0,10,"SELECT 1",""⟩ sample_inside.2.1).put
    ⟨1,1,10,"SELECT 1",""⟩ sample_inside.2.2
  updates := .empty

def sampleEnvironment : Environment := ⟨fun _ => .opened,.ok,id,.ok [],fun _ => .ok 1,0,true⟩

def sampleAsk (index : Int) (now : Nat) : Action := .ask 0 ⟨"",index,[],1,-1⟩ sampleEnvironment now

theorem cache_from_database_twice : (outputs (step sampleSetting) (.initial sampleTables 0)
      [sampleAsk 0 0,.answer 0 (.ok [["zero"]]) 0,sampleAsk 0 1]).getLast?.join.isSome = true ∧
    Run.Meets (FromDatabase sampleSetting) (step sampleSetting) (.initial sampleTables 0)
      [sampleAsk 0 0,.answer 0 (.ok [["zero"]]) 0,sampleAsk 0 1] := by
  exact ⟨by decide +kernel,
    cache_from_database sampleSetting (fun _ _ same => same) sampleTables 0 _ (by decide +kernel)⟩

theorem cache_from_other_database :
    ¬ Run.Meets (FromDatabase sampleSetting) (step sampleSetting) (.initial sampleTables 0)
      [sampleAsk 0 0,.answer 0 (.ok [["zero"]]) 0,sampleAsk 1 1] := by
  intro met
  obtain ⟨hit,answered,other⟩ : ∃ hit ∈ (outputs (step sampleSetting) (.initial sampleTables 0)
      [sampleAsk 0 0,.answer 0 (.ok [["zero"]]) 0,sampleAsk 1 1]).getLast?.join,
        hit.info.databaseIndex = 1 := by
    decide +kernel
  obtain ⟨origin,member,database,_⟩ := met.2.2.1 hit answered
  have only : ∀ origin ∈ (final (step sampleSetting) (.initial sampleTables 0)
      [sampleAsk 0 0,.answer 0 (.ok [["zero"]]) 0]).answered, origin.database = 0 := by decide +kernel
  have zero := only origin member
  omega

section
variable {Digest : Type} [DecidableEq Digest] {setting : Setting Digest} {cleanupFrequency : Nat}
  {state : State Digest}

/-- The clock does not go back, and no more than the given seconds pass without a sweep. -/
def Scheduled (cleanupFrequency : Nat) (state : State Digest) : Action → Prop
  | .load _ => True
  | .ask _ _ _ now | .answer _ _ now | .cleanup now => state.clock ≤ now ∧
    now ≤ state.lastSweep + cleanupFrequency

/-- A cached answer is no older than its template allows, and the time between two sweeps. -/
def Recent (setting : Setting Digest) (cleanupFrequency : Nat) (state : State Digest) : Action → Prop
  | .ask thread request environment now =>
    ∀ hit ∈ (step setting state (.ask thread request environment now)).2,
    (now : Int) - hit.info.cachedSeconds - cleanupFrequency ≤ hit.entry.origin.time
  | _ => True

/-- The entry that a query finds has not been read in a later second than it was obtained in, and it
was stored by a template with no longer time to live. -/
def Unread (setting : Setting Digest) (state : State Digest) : Action → Prop
  | .ask thread request environment now => state.pending thread = none →
    ∀ asked ∈ statement (begun setting state thread request environment now).2.2, 1 ≤ asked.1.cachedSeconds →
      ∀ entry ∈ state.cache.table.find (setting.md5 asked.2),
        entry.data.timestamp = entry.origin.time ∧ entry.data.cachedSeconds ≤ asked.1.cachedSeconds
  | _ => True

instance (cleanupFrequency : Nat) (state : State Digest) : DecidablePred (Scheduled cleanupFrequency state)
  | .load _ => isTrue trivial
  | .ask _ _ _ _ | .answer _ _ _ | .cleanup _ => inferInstanceAs (Decidable (_ ∧ _))

instance (setting : Setting Digest) (state : State Digest) : DecidablePred (Unread setting state)
  | .ask thread request environment now => inferInstanceAs (Decidable (state.pending thread = none →
    ∀ asked ∈ statement (begun setting state thread request environment now).2.2, 1 ≤ asked.1.cachedSeconds →
      ∀ entry ∈ state.cache.table.find (setting.md5 asked.2),
        entry.data.timestamp = entry.origin.time ∧ entry.data.cachedSeconds ≤ asked.1.cachedSeconds))
  | .load _ | .answer _ _ _ | .cleanup _ => isTrue trivial

/-- No entry had expired by the last sweep. -/
structure Swept (state : State Digest) : Prop where
  clock : state.lastSweep ≤ state.clock
  fresh : ∀ entry ∈ state.cache.table, 1 ≤ entry.data.cachedSeconds ∧ entry.fresh state.lastSweep = true

variable {thread now : Nat}

theorem ask_times {req : QueryRequest} {env : Environment} :
    (ask setting state thread req env now).1.clock = now ∧
      (ask setting state thread req env now).1.lastSweep = state.lastSweep := by
  unfold ask
  split <;> exact ⟨rfl,rfl⟩

theorem answer_times {info : QueryInfo} {sql : String} {res : Except DbError DBTable} :
    (answer setting state thread info sql res now).clock = now ∧
      (answer setting state thread info sql res now).lastSweep = state.lastSweep := by
  unfold answer
  split <;> exact ⟨rfl,rfl⟩

variable {act : Action}

theorem step_times (scheduled : Scheduled cleanupFrequency state act) :
    state.clock ≤ (step setting state act).1.clock ∧ ((step setting state act).1.lastSweep = state.lastSweep ∨
        ∃ now, act = .cleanup now ∧ (step setting state act).1.lastSweep = now ∧
          (step setting state act).1.clock = now) := by
  cases act with
  | load tables => exact ⟨Nat.le_refl _,.inl rfl⟩
  | ask thread req env now =>
    simp only [step]
    split
    · exact ⟨Nat.le_refl _,.inl rfl⟩
    · rw [ask_times.1]
      exact ⟨scheduled.1,.inl ask_times.2⟩
  | answer thread res now =>
    simp only [step]
    split
    · exact ⟨Nat.le_refl _,.inl rfl⟩
    · rw [answer_times.1]
      exact ⟨scheduled.1,.inl answer_times.2⟩
  | cleanup now => exact ⟨scheduled.1,.inr ⟨now,rfl,rfl,rfl⟩⟩

omit [DecidableEq Digest] in
theorem fresh_of_late {entry : CacheEntry Digest} (late : now ≤ entry.data.timestamp)
    (pos : 1 ≤ entry.data.cachedSeconds) : entry.fresh now = true := by
  unfold CacheEntry.fresh
  simp only [decide_eq_true_eq]
  omega

theorem step_swept (swept : Swept state) (scheduled : Scheduled cleanupFrequency state act) :
    Swept (step setting state act).1 := by
  obtain ⟨forward,same | ⟨now,rfl,sweeps,clock⟩⟩ := @step_times _ _ setting _ _ _ scheduled
  · have before := swept.clock
    refine ⟨by omega,?_⟩
    intro entry mem
    rw [same]
    rcases mem_step mem with ⟨old,-⟩ | ⟨old,there,thread,req,env,now,rfl,rfl⟩ |
      ⟨thread,rows,now,info,sql,rfl,asked,cached,-,rfl⟩
    · exact swept.fresh entry old
    · have pos := (swept.fresh old there).1
      exact ⟨pos,fresh_of_late (Nat.le_trans before scheduled.1) pos⟩
    · exact ⟨cached,fresh_of_late (Nat.le_trans before scheduled.1) cached⟩
  · refine ⟨by omega,?_⟩
    intro entry mem
    obtain ⟨old,fresh⟩ := Table.mem_filter.mp mem
    exact ⟨(swept.fresh entry old).1,fresh⟩

theorem recent_of_unread (swept : Swept state) (scheduled : Scheduled cleanupFrequency state act)
    (unread : Unread setting state act) : Recent setting cleanupFrequency state act := by
  cases act with
  | load | answer | cleanup => trivial
  | ask thread req env now =>
    intro hit replied
    obtain ⟨_,_,_,_,same,free,hits⟩ := step_hit replied
    cases same
    obtain ⟨pos,found⟩ := begun_hit hits
    obtain ⟨obtained,shorter⟩ := unread free (hit.info,hit.sql) (by rw [hits]; rfl) pos hit.entry found
    obtain ⟨_,fresh⟩ := swept.fresh hit.entry (Table.find_some found).1
    unfold CacheEntry.fresh at fresh
    rw [decide_eq_true_eq] at fresh
    have onTime := scheduled.2
    dsimp only at shorter
    omega

end

/-- With a sweep at least every `cleanupFrequency` seconds, every cached answer is recent in every
run in which entries are read only in the second they were obtained in and by templates with no
shorter time to live. -/
theorem cache_recent {Digest : Type} [DecidableEq Digest] (setting : Setting Digest) (cleanupFrequency : Nat)
    (tables : Tables) (now : Nat) (actions : List Action)
    (met : Run.Meets (fun state action => Scheduled cleanupFrequency state action ∧
      Unread setting state action)
      (step setting) (.initial tables now) actions) :
    Run.Meets (Recent setting cleanupFrequency) (step setting) (.initial tables now) actions := by
  have start : Swept (State.initial tables now : State Digest) :=
    ⟨Nat.le_refl now,fun entry member => absurd member (Table.not_mem_empty entry)⟩
  exact meets_of_invariant Swept (fun _ action swept met => step_swept swept met.1)
    (fun _ action swept met => recent_of_unread swept met.1 met.2) _ actions start met

theorem cache_recent_twice : (outputs (step sampleSetting) (.initial sampleTables 0)
      [sampleAsk 0 0,.answer 0 (.ok [["zero"]]) 0,.cleanup 5,sampleAsk 0 9]).getLast?.join.isSome = true ∧
    Run.Meets (Recent sampleSetting 10) (step sampleSetting) (.initial sampleTables 0)
      [sampleAsk 0 0,.answer 0 (.ok [["zero"]]) 0,.cleanup 5,sampleAsk 0 9] :=
  ⟨by decide +kernel,cache_recent sampleSetting 10 sampleTables 0 _ (by decide +kernel)⟩

theorem cache_outdated : Run.Meets (Scheduled 10) (step sampleSetting) (.initial sampleTables 0)
      [sampleAsk 0 0,.answer 0 (.ok [["zero"]]) 0,sampleAsk 0 9,.cleanup 10,sampleAsk 0 18,
        .cleanup 20,sampleAsk 0 27] ∧
    ¬ Run.Meets (Recent sampleSetting 10) (step sampleSetting) (.initial sampleTables 0)
      [sampleAsk 0 0,.answer 0 (.ok [["zero"]]) 0,sampleAsk 0 9,.cleanup 10,sampleAsk 0 18,
        .cleanup 20,sampleAsk 0 27] := by
  refine ⟨by decide +kernel,?_⟩
  intro met
  obtain ⟨hit,answered,old⟩ : ∃ hit ∈ (outputs (step sampleSetting) (.initial sampleTables 0)
      [sampleAsk 0 0,.answer 0 (.ok [["zero"]]) 0,sampleAsk 0 9,.cleanup 10,sampleAsk 0 18,.cleanup 20,
        sampleAsk 0 27]).getLast?.join, hit.info.cachedSeconds = 10 ∧
          hit.entry.origin.time = 0 := by decide +kernel
  have recent := met.2.2.2.2.2.2.1 hit answered
  omega

end Mooon.DbProxy.Handler.QueryCache

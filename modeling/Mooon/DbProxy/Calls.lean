import Mooon.DbProxy.Handler

/-! What the calls of `CDbProxyHandler` come to: whose statements reach MySQL or the SQL log, and
when a missing database or a failed connection is reported. -/
namespace Mooon.DbProxy.Handler
open Config

inductive Call where
  | query (request : QueryRequest)
  | update (request : UpdateRequest)
  | asyncUpdate (request : UpdateRequest)
  | update2 (index : Int) (tablename : String) (tokens : List (String × String)) (conditions : List Condition)
  | insert2 (index : Int) (tablename : String) (tokens : List (String × String))
  | query2 (request : Query2Request)

/-- The state that a call finds: the configuration, the thread's connections, the cache and the clock. -/
structure Context (Digest : Type) where
  setting : Setting Digest
  environment : Environment
  tables : Tables
  now : Nat
  connections : Connections
  cache : Cache Digest

def handle {Digest : Type} [DecidableEq Digest] (context : Context Digest) : Call → List Statement × Ending
  | .query request =>
    let outcome := Handler.query context.setting context.environment context.tables context.now
      context.connections
      context.cache request
    (outcome.statements,outcome.ending)
  | .update request => (Handler.update context.environment context.tables context.connections request).2
  | .asyncUpdate request =>
    (Handler.asyncUpdate context.environment context.tables context.connections request).2
  | .update2 index tablename tokens conditions =>
    (Handler.update2 context.environment context.tables context.connections index tablename tokens
      conditions).2
  | .insert2 index tablename tokens =>
    (Handler.insert2 context.environment context.tables context.connections index tablename tokens).2
  | .query2 request => (Handler.query2 context.environment context.tables context.connections request).2

def connected (environment : Environment) (connections : Connections) (index : Int) : Bool :=
  if inside : Slots.Inside maxDbConnection index then
    connections (Slots.place inside) || openConnection environment.opens 3 0
  else false

section
variable {env : Environment} {tables : Tables} {conns : Connections} {index : Int}

variable (env conns) in
theorem getDbConnection_of_find {info : DbInfo} (found : tables.databases.find index = some info) :
    ∃ after, getDbConnection env tables conns index =
      some (after,connected env conns index) := by
  have inside := (Slots.find_some found).2
  unfold getDbConnection connected
  rw [dif_pos inside,dif_pos inside]
  cases there : conns (Slots.place inside) with
  | true => exact ⟨conns,by simp⟩
  | false =>
    simp [found]

theorem getDbConnection_eq_none : getDbConnection env tables conns index = none ↔
    ∃ inside : Slots.Inside maxDbConnection index, conns (Slots.place inside) = false ∧
      tables.databases.find index = none := by
  unfold getDbConnection
  split
  · rename_i inside
    cases there : conns (Slots.place inside) with
    | true => simp [there]
    | false =>
      cases found : tables.databases.find index with
      | none => simp [inside,there]
      | some info => simp
  · rename_i outside
    simp [outside]

end

section
variable (env : Environment) {tables : Tables} {info : DbInfo} (sql : String)

theorem writeDirect_attempts (updates : Nat → Except DbError Nat) (db : Int) (left retries : Nat) :
    ∃ count value, writeDirect updates db sql (left+1) retries =
        (List.replicate (count+1) (.mysql db sql),.number value) ∧
      (0 ≤ value ↔ (updates (retries+count)).isOk = true) := by
  unfold writeDirect
  cases answer : updates retries with
  | ok rows =>
    refine ⟨0,rows,rfl,?_⟩
    rw [Nat.add_zero,answer]
    exact iff_of_true (Int.natCast_nonneg rows) rfl
  | error error =>
    have refused : 0 ≤ (-1 : Int) ↔ (updates (retries+0)).isOk = true := by
      rw [Nat.add_zero,answer]
      exact iff_of_false (by decide) Bool.false_ne_true
    dsimp only
    split
    · cases left with
      | zero => exact ⟨0,-1,rfl,refused⟩
      | succ left =>
        obtain ⟨count,value,same,last⟩ := writeDirect_attempts updates db left (retries+1)
        rw [same]
        refine ⟨count+1,value,rfl,?_⟩
        rw [last,Nat.add_right_comm,Nat.add_assoc]
    · exact ⟨0,-1,rfl,refused⟩

theorem writeSql_cases (found : tables.databases.find info.index = some info) (isConnected : Bool) :
    (info.dbAlias = "" ∧ isConnected = false ∧ writeSql env tables info isConnected sql = ([],.undefined)) ∨
    ((info.dbAlias = "" → isConnected = true) ∧ (writeSql env tables info isConnected sql).1 ≠ [] ∧
      ((∃ value, (writeSql env tables info isConnected sql).2 = .number value) ∨
        ∃ msg, (writeSql env tables info isConnected sql).2 = .threw msg)) := by
  unfold writeSql
  by_cases direct : info.dbAlias = ""
  · cases isConnected with
    | false => exact .inl ⟨direct,rfl,by simp [direct]⟩
    | true =>
      obtain ⟨count,value,same,_⟩ := writeDirect_attempts sql env.updates info.index 4 0
      rw [if_pos direct,same]
      exact .inr ⟨fun _ => rfl,by simp,.inl ⟨value,rfl⟩⟩
  · rw [if_neg direct,found]
    refine .inr ⟨fun same => absurd same direct,by simp,?_⟩
    cases env.written with
    | false => exact .inr ⟨_,rfl⟩
    | true => exact .inl ⟨_,rfl⟩

end

/-- The template and the database of an update exist, and it has no more tokens than a template can take. -/
structure Addressed (tables : Tables) (request : UpdateRequest) (info : UpdateInfo)
    (database : DbInfo) : Prop where
  template : tables.updates.find request.index = some info
  known : tables.databases.find info.databaseIndex = some database
  few : request.tokens.length ≤ formatStringSize

def updateTokens (environment : Environment) (connections : Connections) (request : UpdateRequest)
    (info : UpdateInfo) : Except DbError (List String) :=
  escapeTokens environment (connected environment connections info.databaseIndex) request.tokens

def Formatted (environment : Environment) (connections : Connections) (request : UpdateRequest)
    (info : UpdateInfo) (escaped : List String) : Prop :=
  updateTokens environment connections request info = .ok escaped ∧ formatString info.sqlTemplate escaped ≠ ""

section
variable {environment : Environment} {tables : Tables} {connections : Connections} {throwException : Bool}
  {request : UpdateRequest} {info : UpdateInfo} {database : DbInfo}

theorem Addressed.unique {info' : UpdateInfo} {database' : DbInfo}
    (one : Addressed tables request info database) (two : Addressed tables request info' database') :
    info = info' ∧ database = database' := by
  cases one.template.symm.trans two.template
  cases one.known.symm.trans two.known
  exact ⟨rfl,rfl⟩

theorem doUpdate_raised {error : DbError} (aimed : Addressed tables request info database)
    (unescaped : updateTokens environment connections request info = .error error) :
    (doUpdate environment tables connections throwException request).2 = ([],.raised error) := by
  obtain ⟨after,opened⟩ := getDbConnection_of_find environment connections aimed.known
  have few := Nat.not_lt.mpr aimed.few
  unfold updateTokens at unescaped
  simp only [doUpdate,aimed.template,aimed.known,if_neg few,opened,unescaped]

theorem doUpdate_escaped {escaped : List String} (aimed : Addressed tables request info database)
    (escapes : updateTokens environment connections request info = .ok escaped) :
    (doUpdate environment tables connections throwException request).2 =
      if formatString info.sqlTemplate escaped = "" then
        ([],failed throwException ("tokens number(" ++ toString escaped.length ++
          ") or template error: update_index=" ++ toString request.index))
      else writeSql environment tables database (connected environment connections info.databaseIndex)
        (formatString info.sqlTemplate escaped) := by
  obtain ⟨after,opened⟩ := getDbConnection_of_find environment connections aimed.known
  have few := Nat.not_lt.mpr aimed.few
  unfold updateTokens at escapes
  simp only [doUpdate,aimed.template,aimed.known,if_neg few,opened,escapes]
  split <;> rfl

theorem doUpdate_unaddressed (unaddressed : ∀ info database, ¬ Addressed tables request info database) :
    ∃ msg, (doUpdate environment tables connections throwException request).2 =
      ([],failed throwException msg) := by
  unfold doUpdate
  cases template : tables.updates.find request.index with
  | none => exact ⟨_,rfl⟩
  | some info =>
    dsimp only
    cases known : tables.databases.find info.databaseIndex with
    | none => exact ⟨_,rfl⟩
    | some database =>
      split_ifs with few
      · exact ⟨_,rfl⟩
      · exact absurd ⟨template,known,Nat.not_lt.mp few⟩ (unaddressed info database)

theorem Addressed.logged (aimed : Addressed tables request info database) :
    tables.databases.find database.index = some database := by
  rw [(Slots.find_some aimed.known).1]
  exact aimed.known

variable (environment tables connections throwException request) in
/-- All that can become of an update. -/
inductive Course : List Statement × Ending → Prop
  | unaddressed (message : String) (none : ∀ info database, ¬ Addressed tables request info database) :
    Course ([],failed throwException message)
  | unescaped {info : UpdateInfo} {database : DbInfo} (error : DbError)
    (addressed : Addressed tables request info database)
    (tokens : updateTokens environment connections request info = .error error) : Course ([],.raised error)
  | unformatted {info : UpdateInfo} {database : DbInfo} {escaped : List String} (message : String)
    (addressed : Addressed tables request info database)
    (tokens : updateTokens environment connections request info = .ok escaped)
    (empty : formatString info.sqlTemplate escaped = "") : Course ([],failed throwException message)
  | unconnected {info : UpdateInfo} {database : DbInfo} {escaped : List String}
    (addressed : Addressed tables request info database)
    (formatted : Formatted environment connections request info escaped) (direct : database.dbAlias = "")
    (closed : connected environment connections info.databaseIndex = false) : Course ([],.undefined)
  | written {info : UpdateInfo} {database : DbInfo} {escaped : List String} {statements : List Statement}
    {ending : Ending} (addressed : Addressed tables request info database)
    (formatted : Formatted environment connections request info escaped)
    (reached : database.dbAlias = "" → connected environment connections info.databaseIndex = true)
    (some : statements ≠ []) (ends : (∃ value, ending = .number value) ∨ ∃ message, ending = .threw message) :
    Course (statements,ending)

theorem doUpdate_course : Course environment tables connections throwException request
    (doUpdate environment tables connections throwException request).2 := by
  by_cases some : ∃ info database, Addressed tables request info database
  · obtain ⟨info,database,aimed⟩ := some
    cases tokens : updateTokens environment connections request info with
    | error error =>
      rw [doUpdate_raised aimed tokens]
      exact .unescaped error aimed tokens
    | ok escaped =>
      rw [doUpdate_escaped aimed tokens]
      split_ifs with empty
      · exact .unformatted _ aimed tokens empty
      · rcases writeSql_cases environment (formatString info.sqlTemplate escaped) aimed.logged
          (connected environment connections info.databaseIndex) with
            ⟨direct,closed,written⟩ | ⟨reached,written,ends⟩
        · rw [written]
          exact .unconnected aimed ⟨tokens,empty⟩ direct closed
        · exact .written aimed ⟨tokens,empty⟩ reached written ends
  · have none : ∀ info database, ¬ Addressed tables request info database :=
      fun info database aimed => some ⟨info,database,aimed⟩
    obtain ⟨msg,res⟩ := doUpdate_unaddressed none
    rw [res]
    exact .unaddressed msg none

/-- The statement of an update is written: it is addressed, its tokens fit, and the database has an alias or a
connection. -/
def Written (environment : Environment) (tables : Tables) (connections : Connections)
    (request : UpdateRequest) : Prop :=
  ∃ info database escaped, Addressed tables request info database ∧
    Formatted environment connections request info escaped ∧
    (database.dbAlias = "" → connected environment connections info.databaseIndex = true)

theorem written_iff {res : List Statement × Ending}
    (course : Course environment tables connections throwException request res) :
    res.1 ≠ [] ↔ Written environment tables connections request := by
  cases course with
  | unaddressed msg none =>
    simp only [ne_eq,not_true_eq_false,false_iff]
    rintro ⟨info,database,_,aimed,_⟩
    exact none info database aimed
  | unescaped error aimed tokens =>
    simp only [ne_eq,not_true_eq_false,false_iff]
    rintro ⟨_,_,_,addressed',formatted,_⟩
    obtain ⟨rfl,rfl⟩ := aimed.unique addressed'
    cases formatted.1.symm.trans tokens
  | unformatted msg aimed tokens empty =>
    simp only [ne_eq,not_true_eq_false,false_iff]
    rintro ⟨_,_,_,addressed',formatted,_⟩
    obtain ⟨rfl,rfl⟩ := aimed.unique addressed'
    cases formatted.1.symm.trans tokens
    exact formatted.2 empty
  | unconnected aimed formatted direct closed =>
    simp only [ne_eq,not_true_eq_false,false_iff]
    rintro ⟨_,_,_,addressed',_,reached⟩
    obtain ⟨rfl,rfl⟩ := aimed.unique addressed'
    cases (reached direct).symm.trans closed
  | written aimed formatted reached some ends =>
    exact ⟨fun _ => ⟨_,_,_,aimed,formatted,reached⟩,fun _ => some⟩

end

def Reported (result : List Statement × Ending) : Prop :=
  result.2 ≠ .undefined ∧
    (result.1 ≠ [] ∨ (∃ message, result.2 = .threw message) ∨ result.2 = .number (-1) ∨
      ∃ rows, result.2 = .cached rows)

variable {message : String}

theorem reported_threw {statements : List Statement} : Reported (statements,.threw message) :=
  ⟨by simp,.inr (.inl ⟨message,rfl⟩)⟩

variable {throwException : Bool}

theorem reported_failed : Reported ([],failed throwException message) := by
  cases throwException with
  | true => exact reported_threw
  | false => exact ⟨by simp [failed],.inr (.inr (.inl rfl))⟩

def Throws {α : Type} (builder : Except Ending α) : Prop :=
  ∀ ending, builder = .error ending → ∃ message, ending = .threw message

section
variable {α β : Type}

theorem throws_ok (value : α) : Throws (.ok value) := by
  intro ending error
  cases error

theorem throws_error {message : String} : Throws (.error (.threw message) : Except Ending α) := by
  intro ending error
  cases error
  exact ⟨message,rfl⟩

variable {builder : Except Ending α}

theorem Throws.reported (throws : Throws builder) {ending : Ending}
    (error : builder = .error ending) (statements : List Statement) : Reported (statements,ending) := by
  obtain ⟨message,rfl⟩ := throws ending error
  exact reported_threw

variable {next : α → Except Ending β}

theorem throws_bind (first : Throws builder) (later : ∀ value, Throws (next value)) :
    Throws (builder >>= next) := by
  intro ending error
  cases res : builder with
  | error other =>
    rw [res] at error
    cases error
    exact first _ res
  | ok value =>
    rw [res] at error
    exact later value ending error

theorem throws_mapM (each : ∀ value, Throws (next value)) (values : List α) : Throws (values.mapM next) := by
  induction values with
  | nil => exact throws_ok []
  | cons value rest ih =>
    rw [List.mapM_cons]
    exact throws_bind (each value) fun _ => throws_bind ih fun _ => throws_ok _

theorem throws_escape (env : Environment) (text : String) : Throws (escape env text) := by
  unfold escape
  split
  · exact throws_ok _
  · exact throws_error

end

section
variable (env : Environment) (tablename : String) (tokens : List (String × String))

theorem throws_updateClause :
    Throws (updateClause env tablename tokens) := by
  unfold updateClause
  split
  · exact throws_ok _
  · refine throws_bind (throws_escape _ _) fun _ => throws_bind (throws_mapM ?_ _) fun _ => throws_ok _
    intro token
    exact throws_bind (throws_escape _ _) fun _ => throws_bind (throws_escape _ _) fun _ => throws_ok _

theorem throws_whereClause (numeric : Bool) (conditions : List Condition) :
    Throws (whereClause env numeric conditions) := by
  unfold whereClause
  split
  · exact throws_ok _
  · refine throws_bind (throws_mapM ?_ _) fun _ => throws_ok _
    intro cond
    refine throws_bind (throws_escape _ _) fun _ => throws_bind (throws_escape _ _) fun _ => ?_
    split
    · exact throws_bind (throws_escape _ _) fun _ => throws_ok _
    · split
      · split
        · exact throws_ok _
        · exact throws_error
      · exact throws_bind (throws_escape _ _) fun _ => throws_ok _

theorem throws_insertSql :
    Throws (insertSql env tablename tokens) := by
  unfold insertSql
  split
  · exact throws_ok _
  · refine throws_bind (throws_escape _ _) fun _ => throws_bind (throws_mapM ?_ _) fun _ =>
      throws_bind (throws_mapM ?_ _) fun _ => throws_ok _
    · intro token
      exact throws_escape _ _
    · intro token
      exact throws_bind (throws_escape _ _) fun _ => throws_ok _

theorem throws_optionalClause (words text : String) : Throws (optionalClause env words text) := by
  unfold optionalClause
  split
  · exact throws_ok _
  · exact throws_bind (throws_escape _ _) fun _ => throws_ok _

theorem throws_query2Sql (req : Query2Request) : Throws (query2Sql env req) :=
  throws_bind (throws_mapM (throws_escape env) _) fun _ => throws_bind (throws_escape _ _) fun _ =>
    throws_bind (throws_whereClause env _ _) fun _ => throws_bind (throws_optionalClause env _ _) fun _ =>
    throws_bind (throws_optionalClause env _ _) fun _ => throws_ok _

theorem throws_querySql {info : QueryInfo} {req : QueryRequest} : Throws (querySql env info req) := by
  unfold querySql
  split
  · exact throws_error
  · split
    · exact throws_error
    · dsimp only
      split
      · exact throws_error
      · exact throws_ok _

end

/-- What a call needs of the configuration and the connections: a query an entry for its database, an update a
connection to a database without an alias, on which its tokens can be escaped. -/
def Call.Provided (environment : Environment) (tables : Tables) (connections : Connections) : Call → Prop
  | .query request => ∀ info, tables.queries.find request.index = some info → request.sign = info.sign →
    ∀ inside : Slots.Inside maxDbConnection info.databaseIndex,
      connections (Slots.place inside) = true ∨ tables.databases.find info.databaseIndex ≠ none
  | .update request | .asyncUpdate request => ∀ info database, Addressed tables request info database →
    ∃ escaped, updateTokens environment connections request info = .ok escaped ∧
      (formatString info.sqlTemplate escaped ≠ "" → database.dbAlias = "" →
        connected environment connections info.databaseIndex = true)
  | _ => True

theorem updates_reported_iff {env : Environment} {tables : Tables} {conns : Connections}
    {req : UpdateRequest} {res : List Statement × Ending}
    (course : Course env tables conns throwException req res) :
    Reported res ↔ (Call.update req).Provided env tables conns := by
  cases course with
  | unaddressed message none =>
    refine iff_of_true reported_failed ?_
    intro info db aimed
    exact absurd aimed (none info db)
  | unescaped error aimed tokens =>
    refine iff_of_false ?_ ?_
    · rintro ⟨_,some | ⟨_,same⟩ | same | ⟨_,same⟩⟩
      · exact some rfl
      · cases same
      · cases same
      · cases same
    · intro provided
      obtain ⟨escaped,ok,_⟩ := provided _ _ aimed
      cases tokens.symm.trans ok
  | unformatted message aimed tokens empty =>
    refine iff_of_true reported_failed ?_
    intro info db addressed'
    obtain ⟨rfl,rfl⟩ := aimed.unique addressed'
    exact ⟨_,tokens,fun some => absurd empty some⟩
  | unconnected aimed formatted direct closed =>
    refine iff_of_false (fun reported => reported.1 rfl) ?_
    intro provided
    obtain ⟨escaped,ok,opened⟩ := provided _ _ aimed
    cases formatted.1.symm.trans ok
    cases (opened formatted.2 direct).symm.trans closed
  | written aimed formatted reached some ends =>
    refine iff_of_true ⟨?_,.inl some⟩ ?_
    · rcases ends with ⟨value,rfl⟩ | ⟨message,rfl⟩ <;> simp
    · intro info db addressed'
      obtain ⟨rfl,rfl⟩ := aimed.unique addressed'
      exact ⟨_,formatted.1,fun _ => reached⟩

section
variable {env : Environment} {tables : Tables} {conns : Connections} {index : Int}

theorem onDatabase_reported {call : DbInfo → List Statement × Ending}
    (reported : ∀ info, tables.databases.find info.index = some info → Reported (call info)) :
    Reported (onDatabase env tables conns index call).2 := by
  unfold onDatabase
  cases found : tables.databases.find index with
  | none => exact reported_threw
  | some info =>
    obtain ⟨after,opened⟩ := getDbConnection_of_find env conns found
    rw [opened]
    cases connected env conns index with
    | false => exact reported_threw
    | true =>
      apply reported
      rw [(Slots.find_some found).1]
      exact found

variable {info : DbInfo}

theorem writeSql_reported (found : tables.databases.find info.index = some info) {sql : String} :
    (writeSql env tables info true sql).1 ≠ [] ∧ (writeSql env tables info true sql).2 ≠ .undefined := by
  rcases writeSql_cases env sql found true with ⟨_,closed,_⟩ | ⟨_,some,⟨value,ends⟩ | ⟨message,ends⟩⟩
  · cases closed
  · exact ⟨some,by rw [ends]; simp⟩
  · exact ⟨some,by rw [ends]; simp⟩

theorem insertEnding_defined {ending : Ending} (defined : ending ≠ .undefined) :
    insertEnding env info ending ≠ .undefined := by
  cases ending <;> simp_all [insertEnding]

variable {tokens : List (String × String)} {tablename : String}

theorem update2_reported {conditions : List Condition} :
    Reported (Handler.update2 env tables conns index tablename tokens conditions).2 := by
  apply onDatabase_reported
  intro info found
  split
  · rename_i error
    exact (throws_updateClause env tablename tokens).reported error _
  · rename_i error _
    exact (throws_whereClause env true conditions).reported error _
  · obtain ⟨some,defined⟩ := writeSql_reported found
    exact ⟨defined,.inl some⟩

theorem insert2_reported :
    Reported (Handler.insert2 env tables conns index tablename tokens).2 := by
  apply onDatabase_reported
  intro info found
  split
  · rename_i error
    exact (throws_insertSql env tablename tokens).reported error _
  · obtain ⟨some,defined⟩ := writeSql_reported found
    exact ⟨insertEnding_defined defined,.inl some⟩

theorem query2_reported {req : Query2Request} :
    Reported (Handler.query2 env tables conns req).2 := by
  apply onDatabase_reported
  intro info found
  split
  · rename_i error
    exact (throws_query2Sql env req).reported error _
  · split
    · exact ⟨by simp,.inl (by simp)⟩
    · exact reported_threw

end

section
variable {Digest : Type} [DecidableEq Digest] {info : QueryInfo}

theorem finishQuery_defined {setting : Setting Digest} {now : Nat} {sql : String}
    {answer : Except DbError DBTable} {cache : Cache Digest} :
    (finishQuery setting now info sql answer cache).2 ≠ .undefined := by
  unfold finishQuery
  split
  · simp
  · split <;> simp

theorem lookUp_cases (setting : Setting Digest) (now : Nat) (info : QueryInfo) (sql : String)
    (cache : Cache Digest) : (∃ entry, lookUp setting now info sql cache =
      ((getDataFromCache setting.md5 now sql cache).1,.hit info sql entry) ∧
      1 ≤ info.cachedSeconds ∧ cache.table.find (setting.md5 sql) = some entry) ∨
    lookUp setting now info sql cache = (cache,.asks info sql) ∧
      (info.cachedSeconds < 1 ∨ cache.table.find (setting.md5 sql) = none) := by
  unfold lookUp
  by_cases uncached : info.cachedSeconds < 1
  · rw [if_pos uncached]
    exact .inr ⟨rfl,.inl uncached⟩
  · rw [if_neg uncached]
    unfold getDataFromCache
    cases found : cache.table.find (setting.md5 sql) with
    | none => exact .inr ⟨rfl,.inr rfl⟩
    | some entry => exact .inl ⟨entry,rfl,by omega,rfl⟩

structure Built (environment : Environment) (tables : Tables) (connections : Connections)
    (request : QueryRequest) (info : QueryInfo) (after : Connections) (sql : String) : Prop where
  template : tables.queries.find request.index = some info
  sign : request.sign = info.sign
  connection : getDbConnection environment tables connections info.databaseIndex = some (after,true)
  statement : querySql environment info request = .ok sql

section
variable {setting : Setting Digest} {environment : Environment} {tables : Tables} {now : Nat}
  {connections : Connections} {cache : Cache Digest} {request : QueryRequest}

theorem Built.unique {info info' : QueryInfo} {after after' : Connections} {sql sql' : String}
    (one : Built environment tables connections request info after sql)
    (two : Built environment tables connections request info' after' sql') : info = info' ∧ sql = sql' := by
  cases one.template.symm.trans two.template
  cases one.statement.symm.trans two.statement
  exact ⟨rfl,rfl⟩

variable (setting environment tables now connections cache request) in
/-- All that can become of a query. -/
inductive QueryCourse : Outcome Digest → Prop
  | unbuilt {after : Connections} {ending : Ending}
    (none : ∀ info after sql, ¬ Built environment tables connections request info after sql)
    (ends : ending = .undefined ∨ ∃ message, ending = .threw message) : QueryCourse ⟨after,cache,[],ending⟩
  | hit {info : QueryInfo} {after : Connections} {sql : String} {entry : CacheEntry Digest}
    (built : Built environment tables connections request info after sql) (cached : 1 ≤ info.cachedSeconds)
    (there : cache.table.find (setting.md5 sql) = some entry) :
    QueryCourse ⟨after,(getDataFromCache setting.md5 now sql cache).1,[],.cached entry.data.cachedData⟩
  | asked {info : QueryInfo} {after : Connections} {sql : String}
    (built : Built environment tables connections request info after sql)
    (absent : info.cachedSeconds < 1 ∨ cache.table.find (setting.md5 sql) = none) :
    QueryCourse ⟨after,(finishQuery setting now info sql environment.answer cache).1,
      [.mysql info.databaseIndex sql],
      (finishQuery setting now info sql environment.answer cache).2⟩

theorem query_course : QueryCourse setting environment tables now connections cache request
    (query setting environment tables now connections cache request) := by
  unfold query beginQuery
  cases found : tables.queries.find request.index with
  | none =>
    refine .unbuilt ?_ (.inr ⟨_,rfl⟩)
    intro info after sql built
    cases built.template.symm.trans found
  | some info =>
    have template : ∀ {info' after sql},
        Built environment tables connections request info' after sql → info' = info :=
      fun built => Option.some.inj (built.template.symm.trans found)
    dsimp only
    by_cases sign : request.sign ≠ info.sign
    · rw [if_pos sign]
      refine .unbuilt ?_ (.inr ⟨_,rfl⟩)
      intro info' after sql built
      cases template built
      exact sign built.sign
    · rw [if_neg sign]
      cases conn : getDbConnection environment tables connections info.databaseIndex with
      | none =>
        refine .unbuilt ?_ (.inl rfl)
        intro info' after sql built
        cases template built
        cases built.connection.symm.trans conn
      | some pair =>
        obtain ⟨after,isConnected⟩ := pair
        cases isConnected with
        | false =>
          refine .unbuilt ?_ (.inr ⟨_,rfl⟩)
          intro info' after' sql built
          cases template built
          cases built.connection.symm.trans conn
        | true =>
          cases stmt : querySql environment info request with
          | error ending =>
            refine .unbuilt ?_ (.inr (throws_querySql environment ending stmt))
            intro info' after' sql built
            cases template built
            cases built.statement.symm.trans stmt
          | ok sql =>
            dsimp only
            have built : Built environment tables connections request info after sql :=
              ⟨found,not_not.mp sign,conn,stmt⟩
            rcases lookUp_cases setting now info sql cache with ⟨entry,looked,cached,there⟩ | ⟨looked,absent⟩
            · rw [looked]
              exact .hit built cached there
            · rw [looked]
              exact .asked built absent

end

theorem handle_query (ctx : Context Digest) (req : QueryRequest) :
    ∃ outcome, QueryCourse ctx.setting ctx.environment ctx.tables ctx.now ctx.connections
      ctx.cache req outcome ∧ handle ctx (.query req) = (outcome.statements,outcome.ending) :=
  ⟨_,query_course,rfl⟩

/-- A statement built from a template reaches MySQL or the SQL log only for its sign. -/
def Authorized (tables : Tables) (statements : List Statement) : Call → Prop
  | .query request =>
    statements ≠ [] → ∃ info, tables.queries.find request.index = some info ∧ request.sign = info.sign
  | .update request =>
    statements ≠ [] → ∃ info, tables.updates.find request.index = some info ∧ request.sign = info.sign
  | .asyncUpdate request =>
    statements ≠ [] → ∃ info, tables.updates.find request.index = some info ∧ request.sign = info.sign
  | _ => True

/-- An update has the sign of its template, or its statement is not written for another reason. -/
def Signed (environment : Environment) (tables : Tables) (connections : Connections)
    (request : UpdateRequest) : Prop :=
  (∃ info, tables.updates.find request.index = some info ∧ request.sign = info.sign) ∨
    ¬ Written environment tables connections request

def Call.Signed (environment : Environment) (tables : Tables) (connections : Connections) : Call → Prop
  | .update request => Handler.Signed environment tables connections request
  | .asyncUpdate request => Handler.Signed environment tables connections request
  | _ => True

/-- `query` checks the sign of every request. `update` and `async_update` check none, so that
exactly the updates that have it anyway, or fail otherwise, are authorized. -/
theorem authorized_iff (context : Context Digest) (call : Call) :
    Authorized context.tables (handle context call).1 call ↔
      call.Signed context.environment context.tables context.connections := by
  have updates : ∀ throwException request, ((doUpdate context.environment context.tables context.connections
      throwException request).2.1 ≠ [] →
        ∃ info, context.tables.updates.find request.index = some info ∧ request.sign = info.sign) ↔
      Handler.Signed context.environment context.tables context.connections request := by
    intro throwException request
    rw [written_iff doUpdate_course,Handler.Signed,or_comm,imp_iff_not_or]
  cases call with
  | query request =>
    refine iff_of_true ?_ trivial
    obtain ⟨outcome,course,same⟩ := handle_query context request
    rw [same]
    cases course with
    | unbuilt | hit => exact fun issued => absurd rfl issued
    | asked built _ => exact fun _ => ⟨_,built.template,built.sign⟩
  | update request => exact updates true request
  | asyncUpdate request => exact updates false request
  | update2 | insert2 | query2 => exact Iff.rfl

def sampleTables : Tables where
  databases := Slots.empty.put ⟨"a",0,"",3306,"","","",""⟩ (by decide)
  queries := Slots.empty.put ⟨0,0,0,"SELECT 1","s"⟩ (by decide)
  updates := Slots.empty.put ⟨0,0,"DELETE FROM t","s"⟩ (by decide)

def sampleEnvironment (opens : Attempt) : Environment :=
  ⟨fun _ => opens,.ok,id,.ok [["1"]],fun _ => .ok 1,0,true⟩

def sampleContext (tables : Tables) (opens : Attempt) : Context String :=
  ⟨⟨id,10⟩,sampleEnvironment opens,tables,0,fun _ => false,.empty⟩

theorem unsigned_written :
    ¬ Authorized sampleTables (handle (sampleContext sampleTables .opened) (.update ⟨"",0,[]⟩)).1
      (.update ⟨"",0,[]⟩) := by
  have issued : (handle (sampleContext sampleTables .opened) (.update ⟨"",0,[]⟩)).1 =
      [.log 0 "DELETE FROM t"] := by
    decide +kernel
  intro authorized
  obtain ⟨info,found,sign⟩ := authorized (by rw [issued]; simp)
  have template : sampleTables.updates.find 0 = some ⟨0,0,"DELETE FROM t","s"⟩ := by decide +kernel
  cases template.symm.trans found
  revert sign
  decide

variable {context : Context Digest} {request : QueryRequest}

theorem query_reported
    (found : context.tables.queries.find request.index = some info) (signed : request.sign = info.sign)
    {conns : Connections} {connected : Bool}
    (conn : getDbConnection context.environment context.tables context.connections info.databaseIndex =
      some (conns,connected)) : Reported (handle context (.query request)) := by
  unfold handle Handler.query beginQuery
  simp only [found,conn,if_neg (not_not.mpr signed)]
  cases connected with
  | false => exact reported_threw
  | true =>
    cases built : querySql context.environment info request with
    | error ending => exact (throws_querySql context.environment).reported built _
    | ok sql =>
      dsimp only
      rcases lookUp_cases context.setting context.now info sql context.cache with ⟨_,looked,-⟩ | ⟨looked,-⟩
      · rw [looked]
        exact ⟨by simp,.inr (.inr (.inr ⟨_,rfl⟩))⟩
      · rw [looked]
        exact ⟨finishQuery_defined,.inl (by simp)⟩

theorem query_reported_iff : Reported (handle context (.query request)) ↔
      (Call.query request).Provided context.environment context.tables context.connections := by
  cases found : context.tables.queries.find request.index with
  | none =>
    refine iff_of_true ?_ ?_
    · simp only [handle,Handler.query,beginQuery,found]
      exact reported_threw
    · intro other same
      cases found.symm.trans same
  | some info =>
    by_cases signed : request.sign = info.sign
    · cases conn : getDbConnection context.environment context.tables context.connections
        info.databaseIndex with
      | none =>
        obtain ⟨inside,closed,missing⟩ := getDbConnection_eq_none.mp conn
        refine iff_of_false ?_ ?_
        · simp only [handle,Handler.query,beginQuery,found,conn,if_neg (not_not.mpr signed)]
          exact fun reported => reported.1 rfl
        · intro provided
          rcases provided info found signed inside with opened | known
          · rw [closed] at opened
            cases opened
          · exact known missing
      | some pair =>
        refine iff_of_true (query_reported found signed conn) ?_
        intro other same _ inside
        cases found.symm.trans same
        by_contra missing
        rw [not_or,not_not,Bool.not_eq_true] at missing
        rw [getDbConnection_eq_none.mpr ⟨inside,missing⟩] at conn
        cases conn
    · refine iff_of_true ?_ ?_
      · simp only [handle,Handler.query,beginQuery,found,if_pos signed]
        exact reported_threw
      · intro other same equal
        cases found.symm.trans same
        exact absurd equal signed

/-- Every call reports a missing database exactly where it is provided for: `update2`, `insert2` and
`query2` always, a query where its database is listed or connected, and an update where its database
has an alias or a connection. -/
theorem reported_iff (context : Context Digest) (call : Call) :
    Reported (handle context call) ↔
      call.Provided context.environment context.tables context.connections := by
  cases call with
  | query request => exact query_reported_iff
  | update request | asyncUpdate request => exact updates_reported_iff doUpdate_course
  | update2 index tablename tokens conditions => exact iff_of_true update2_reported trivial
  | insert2 index tablename tokens => exact iff_of_true insert2_reported trivial
  | query2 request => exact iff_of_true query2_reported trivial

end

/-- A query and an update on a database without an alias; the database of the query is not there. -/
def sparseTables : Tables where
  databases := Slots.empty.put ⟨"",0,"",3306,"","","",""⟩ (by decide)
  queries := Slots.empty.put ⟨0,7,0,"SELECT 1","s"⟩ (by decide)
  updates := Slots.empty.put ⟨0,0,"DELETE FROM t","s"⟩ (by decide)

theorem missing_used : ¬ Reported (handle (sampleContext sparseTables .opened) (.query ⟨"s",0,[],1,-1⟩)) ∧
    ¬ Reported (handle (sampleContext sparseTables .failed) (.update ⟨"s",0,[]⟩)) := by
  refine ⟨?_,?_⟩
  · have result : (handle (sampleContext sparseTables .opened) (.query ⟨"s",0,[],1,-1⟩)).2 =
        .undefined := by rfl
    exact fun reported => reported.1 result
  · have result : (handle (sampleContext sparseTables .failed) (.update ⟨"s",0,[]⟩)).2 = .undefined := by rfl
    exact fun reported => reported.1 result

end Mooon.DbProxy.Handler

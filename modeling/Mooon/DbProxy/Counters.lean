import Mooon.DbProxy.Calls
import Mooon.Tally

/-! The counters of `CDbProxyHandler`: what each call adds to them on the way it takes, what
`on_report` reports, and the numbers that it should report, of the calls of each kind that have
succeeded and failed. The counters are `int`s; an overflow wraps around. -/
namespace Mooon.DbProxy.Handler.Report
open Config

inductive Counter where
  | querySuccess
  | queryFailure
  | query2Success
  | query2Failure
  | updateSuccess
  | updateFailure
  | update2Success
  | update2Failure
  | updateSuccessSql
  | updateFailureSql
  | asyncUpdateSuccess
  | asyncUpdateFailure
  | insert2Success
  | insert2Failure
  | writeSuccess
  | writeFailure
  | errorUpdateSql
deriving DecidableEq

abbrev Counters := Counter → Int

abbrev Changes := List (Counter × Int)

inductive Kind where
  | query
  | query2
  | update
  | update2
  | asyncUpdate
  | insert2
deriving DecidableEq

def Kind.success : Kind → Counter
  | query => .querySuccess
  | query2 => .query2Success
  | update => .updateSuccess
  | update2 => .update2Success
  | asyncUpdate => .asyncUpdateSuccess
  | insert2 => .insert2Success

def Kind.failure : Kind → Counter
  | query => .queryFailure
  | query2 => .query2Failure
  | update => .updateFailure
  | update2 => .update2Failure
  | asyncUpdate => .asyncUpdateFailure
  | insert2 => .insert2Failure

def kindOf : Call → Kind
  | .query _ => .query
  | .update _ => .update
  | .asyncUpdate _ => .asyncUpdate
  | .update2 _ _ _ _ => .update2
  | .insert2 _ _ _ => .insert2
  | .query2 _ => .query2

def writeDirectCounts (updates : Nat → Except DbError Nat) : Nat → Nat → Changes
  | 0, _ => []
  | left+1, retries =>
    match updates retries with
    | .ok _ => [(.updateSuccessSql,1)]
    | .error error =>
      if error.disconnected ∧ left ≠ 0 then
        (.updateFailureSql,1) :: writeDirectCounts updates left (retries+1)
      else [(.updateFailureSql,1),(.errorUpdateSql,1)]

def writeSqlCounts (environment : Environment) (tables : Tables) (info : DbInfo)
    (connected : Bool) : Changes :=
  if info.dbAlias = "" then
    if connected then writeDirectCounts environment.updates 5 0 else []
  else
    match tables.databases.find info.index with
    | none => []
    | some _ => [(if environment.written then .writeSuccess else .writeFailure,1)]

def numberCounts (kind : Kind) : Ending → Changes
  | .number number => [(if 0 ≤ number then kind.success else kind.failure,1)]
  | _ => []

/-- The statement of a query fails in `escape_tokens` only with a `CDBException`. -/
def querySqlCounts (environment : Environment) (request : QueryRequest) : Changes :=
  if formatStringSize < request.tokens.length then []
  else
    match escapeTokens environment true request.tokens with
    | .error _ => [(.queryFailure,-1)]
    | .ok _ => []

section
variable {Digest : Type} [DecidableEq Digest]

def queryCounts (context : Context Digest) (request : QueryRequest) : Changes :=
  match context.tables.queries.find request.index with
  | none => []
  | some info =>
    if request.sign ≠ info.sign then []
    else
      match getDbConnection context.environment context.tables context.connections info.databaseIndex with
      | none => []
      | some (_,false) => []
      | some (_,true) =>
        match querySql context.environment info request with
        | .error _ => querySqlCounts context.environment request
        | .ok sql =>
          match (lookUp context.setting context.now info sql context.cache).2 with
          | .asks _ _ =>
            match context.environment.answer with
            | .ok _ => [(.querySuccess,1)]
            | .error _ => [(.queryFailure,-1)]
          | _ => []

end

section
variable (environment : Environment) (tables : Tables) (connections : Connections) (index : Int)
  (tablename : String) (tokens : List (String × String))

def doUpdateCounts (request : UpdateRequest) :
    Changes :=
  match tables.updates.find request.index with
  | none => []
  | some info =>
    match tables.databases.find info.databaseIndex with
    | none => []
    | some database =>
      if formatStringSize < request.tokens.length then []
      else
        match getDbConnection environment tables connections info.databaseIndex with
        | none => []
        | some (_,connected) =>
          match escapeTokens environment connected request.tokens with
          | .error _ => []
          | .ok escaped =>
            if formatString info.sqlTemplate escaped = "" then []
            else writeSqlCounts environment tables database connected

def updateCounts (kind : Kind) (throwException : Bool) (environment : Environment) (tables : Tables)
    (connections : Connections) (request : UpdateRequest) : Changes :=
  doUpdateCounts environment tables connections request ++
    numberCounts kind (doUpdate environment tables connections throwException request).2.2

/-- `missing` where the database or the connection is not there. -/
def onDatabaseCounts (missing : Changes) (call : DbInfo → Changes) : Changes :=
  match tables.databases.find index with
  | none => missing
  | some info =>
    match getDbConnection environment tables connections index with
    | none => []
    | some (_,false) => missing
    | some (_,true) => call info

/-- The end of `update2` and `insert2`, with the statement or what has made it fail. -/
def writtenCounts (kind : Kind) (environment : Environment) (tables : Tables) (info : DbInfo) :
    Except Ending String → Changes
  | .error _ => [(kind.failure,1)]
  | .ok sql => writeSqlCounts environment tables info true ++
    numberCounts kind (writeSql environment tables info true sql).2

def update2Sql (conditions : List Condition) : Except Ending String :=
  match updateClause environment tablename tokens, whereClause environment true conditions with
  | .error ending, _ => .error ending
  | _, .error ending => .error ending
  | .ok update, .ok conditions => .ok (update ++ conditions)

def update2Counts (conditions : List Condition) : Changes :=
  onDatabaseCounts environment tables connections index [(.update2Failure,1)] fun info =>
    writtenCounts .update2 environment tables info (update2Sql environment tablename tokens conditions)

def insert2Counts : Changes :=
  onDatabaseCounts environment tables connections index [(.insert2Failure,1)] fun info =>
    writtenCounts .insert2 environment tables info (insertSql environment tablename tokens)

/-- All that the statement of `query2` can fail with is a `CDBException`. -/
def query2Counts (request : Query2Request) :
    Changes :=
  onDatabaseCounts environment tables connections request.database [] fun _ =>
    match query2Sql environment request with
    | .error _ => [(.query2Success,-1)]
    | .ok _ =>
      match environment.answer with
      | .ok _ => [(.query2Success,1)]
      | .error _ => [(.query2Success,-1)]

end

section
variable {Digest : Type} [DecidableEq Digest]

def counts (context : Context Digest) : Call → Changes
  | .query request => queryCounts context request
  | .update request => updateCounts .update true context.environment context.tables
    context.connections request
  | .asyncUpdate request =>
    updateCounts .asyncUpdate false context.environment context.tables context.connections request
  | .update2 index tablename tokens conditions =>
    update2Counts context.environment context.tables context.connections index tablename tokens conditions
  | .insert2 index tablename tokens =>
    insert2Counts context.environment context.tables context.connections index tablename tokens
  | .query2 request => query2Counts context.environment context.tables context.connections request

end

def reset : Counters := fun _ => 0

def reported : List Counter :=
  [.querySuccess,.queryFailure,.query2Success,.query2Failure,.updateSuccess,.updateFailure,
    .update2Success,.update2Failure,.updateSuccessSql,.updateFailureSql,.asyncUpdateSuccess,
    .asyncUpdateFailure,.insert2Success,.insert2Failure,.writeSuccess,.writeFailure,.errorUpdateSql]

def onReport (counters : Counters) : Counters × Option Counters :=
  if reported.all (fun counter => counters counter = 0) then (counters,none) else (reset,some counters)

def interval {Digest : Type} [DecidableEq Digest] (counters : Counters)
    (calls : List (Context Digest × Call)) : Counters × Option Counters :=
  onReport (Tally.changed counters (calls.flatMap fun call => counts call.1 call.2))

theorem onReport_eq (counters : Counters) :
    (onReport counters).1 = reset ∧ (onReport counters).2.getD reset = counters := by
  unfold onReport
  split_ifs with zero
  · have same : counters = reset := by
      funext counter
      have mem : counter ∈ reported := by cases counter <;> simp [reported]
      exact of_decide_eq_true (List.all_eq_true.mp zero counter mem)
    exact ⟨same,same.symm⟩
  · exact ⟨rfl,rfl⟩

def accepted (environment : Environment) (statements : List Statement) : Bool :=
  match statements.getLast? with
  | none => false
  | some (.log _ _) => environment.written
  | some (.mysql _ _) => (environment.updates (statements.length - 1)).isOk

def isCached : Ending → Bool
  | .cached _ => true
  | _ => false

section
variable {Digest : Type} [DecidableEq Digest]

def succeeds (context : Context Digest) (call : Call) : Bool :=
  match kindOf call with
  | .query | .query2 => (handle context call).1 ≠ [] && context.environment.answer.isOk
  | _ => accepted context.environment (handle context call).1

/-- The call has not succeeded, nor was there an answer in the cache. -/
def fails (context : Context Digest) (call : Call) : Bool :=
  !succeeds context call && !isCached (handle context call).2

def Truthful (calls : List (Context Digest × Call)) (counters : Counters) : Prop :=
  ∀ kind : Kind,
    counters kind.success = calls.countP (fun call => kindOf call.2 = kind && succeeds call.1 call.2) ∧
    counters kind.failure = calls.countP (fun call => kindOf call.2 = kind && fails call.1 call.2)

end

end Mooon.DbProxy.Handler.Report

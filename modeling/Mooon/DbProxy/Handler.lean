import Mooon.DbProxy.Config
import Mooon.Table

/-! `CDbProxyHandler`: its six calls from the request to the statements that reach MySQL or the SQL
log, with the thread's connections and the cache of query results. A call is undefined when it reads
an empty slot of the configuration or calls a method of a connection that is not there. What the
servers and the clock answer is the environment of a call. A zero character ends a text only where
the source looks at the right side of a condition as a C string; a statement is the text that is
handed over. -/
namespace Mooon.DbProxy.Handler
open Config

abbrev DBTable := List (List String)

structure DbError where
  text : String
  disconnected : Bool

inductive Attempt where
  | opened
  | disconnected
  | failed

/-- The results of the calls into the MySQL client, in their order, and of `write_log`. -/
structure Environment where
  opens : Nat → Attempt
  escapeString : String → Except DbError String
  escapePlain : String → String
  answer : Except DbError DBTable
  updates : Nat → Except DbError Nat
  insertId : Nat
  written : Bool

/-- A `TApplicationException` is thrown; a `CDBException` that no one catches is raised. -/
inductive Ending where
  | table (rows : DBTable)
  | cached (rows : DBTable)
  | number (value : Int)
  | threw (message : String)
  | raised (error : DbError)
  | undefined

inductive Statement where
  | mysql (database : Int) (sql : String)
  | log (database : Int) (sql : String)
deriving DecidableEq

abbrev Connections := Fin maxDbConnection → Bool

/-- The loop of `do_init_db_connection`: only a disconnection is tried again. -/
def openConnection (opens : Nat → Attempt) : Nat → Nat → Bool
  | 0, _ => false
  | left+1, retries =>
    match opens retries with
    | .opened => true
    | .disconnected => openConnection opens left (retries+1)
    | .failed => false

/-- `none` where the configuration has no entry to connect with: its address is read all the same. -/
def getDbConnection (environment : Environment) (tables : Tables) (connections : Connections) (index : Int) :
    Option (Connections × Bool) :=
  if inside : Slots.Inside maxDbConnection index then
    if connections (Slots.place inside) then some (connections,true)
    else
      match tables.databases.find index with
      | none => none
      | some _ =>
        let opened := openConnection environment.opens 3 0
        some (Function.update connections (Slots.place inside) opened,opened)
  else some (connections,false)

def formatStringSize : Nat := 56

/-- The number of `%s` in a template without any other `%`. -/
def placeholders : List Char → Option Nat
  | [] => some 0
  | '%' :: 's' :: rest => (placeholders rest).map (· + 1)
  | '%' :: _ => none
  | _::rest => placeholders rest

def fill : List Char → List String → List Char
  | '%' :: 's' :: rest, token::tokens => token.toList ++ fill rest tokens
  | char::rest, tokens => char::fill rest tokens
  | [], _ => []

def formatString (format : String) (tokens : List String) : String :=
  if placeholders format.toList = some tokens.length ∧ tokens.length ≤ formatStringSize then
    String.ofList (fill format.toList tokens)
  else ""

def escapeTokens (environment : Environment) (connected : Bool) (tokens : List String) :
    Except DbError (List String) :=
  if connected then tokens.mapM environment.escapeString else .ok (tokens.map environment.escapePlain)

def maxLimit : Int := 1000

def limitClause (limit limitStart : Int) : String :=
  if limitStart < 0 then " LIMIT " ++ toString (min limit maxLimit)
  else " LIMIT " ++ toString limitStart ++ "," ++ toString (min limit maxLimit)

structure CachedData where
  timestamp : Nat
  cachedSeconds : Int
  cachedData : DBTable
deriving DecidableEq

structure Origin where
  database : Int
  sql : String
  rows : DBTable
  time : Nat
deriving DecidableEq

structure CacheEntry (Digest : Type) where
  key : Digest
  data : CachedData
  origin : Origin

structure Cache (Digest : Type) where
  table : Table (@CacheEntry.key Digest)
  cachedNumber : Int

def Cache.empty {Digest : Type} : Cache Digest := ⟨.empty,0⟩

section
variable {Digest : Type} [DecidableEq Digest]

def CacheEntry.touch (key : Digest) (now : Nat) (entry : CacheEntry Digest) : CacheEntry Digest :=
  if entry.key = key then {entry with data.timestamp := now} else entry

def CacheEntry.overwrite (new entry : CacheEntry Digest) : CacheEntry Digest :=
  if entry.key = new.key then new else entry

theorem CacheEntry.touch_key (key : Digest) (now : Nat) (entry : CacheEntry Digest) :
    (entry.touch key now).key = entry.key := by
  unfold touch
  split <;> rfl

theorem CacheEntry.overwrite_key (new entry : CacheEntry Digest) : (new.overwrite entry).key = entry.key := by
  unfold overwrite
  split
  · exact Eq.symm ‹_›
  · rfl

def getDataFromCache (md5 : String → Digest) (now : Nat) (sql : String) (cache : Cache Digest) :
    Cache Digest × Option (CacheEntry Digest) :=
  match cache.table.find (md5 sql) with
  | none => (cache,none)
  | some entry =>
    ({cache with
      table := cache.table.update (CacheEntry.touch (md5 sql) now) (CacheEntry.touch_key (md5 sql) now)},
      some entry)

def addDataToCache (md5 : String → Digest) (cacheNumber : Int) (now : Nat) (cachedSeconds : Int)
    (origin : Origin) (cache : Cache Digest) : Cache Digest :=
  if cacheNumber < cache.cachedNumber then cache
  else
    let entry : CacheEntry Digest := ⟨md5 origin.sql,⟨now,cachedSeconds,origin.rows⟩,origin⟩
    match cache.table.insert entry with
    | some table => ⟨table,cache.cachedNumber+1⟩
    | none => {cache with table := cache.table.update entry.overwrite entry.overwrite_key}

def CacheEntry.fresh (now : Nat) (entry : CacheEntry Digest) : Bool :=
  (now : Int) < entry.data.cachedSeconds + entry.data.timestamp

def cleanupCache (now : Nat) (cache : Cache Digest) : Cache Digest :=
  let table := cache.table.filter (CacheEntry.fresh now)
  ⟨table,cache.cachedNumber - (cache.table.rows.length - table.rows.length : Nat)⟩

/-- `md5` is the digest of a statement and `cacheNumber` the parameter `--cache_number`. -/
structure Setting (Digest : Type) where
  md5 : String → Digest
  cacheNumber : Int

structure QueryRequest where
  sign : String
  index : Int
  tokens : List String
  limit : Int
  limitStart : Int

/-- How far a query comes before it asks MySQL. -/
inductive Begun (Digest : Type) where
  | ends (ending : Ending)
  | hit (info : QueryInfo) (sql : String) (entry : CacheEntry Digest)
  | asks (info : QueryInfo) (sql : String)

def QueryInfo.str (info : QueryInfo) : String :=
  "query://" ++ toString info.index ++ "/" ++ toString info.databaseIndex ++ "/" ++
    toString info.cachedSeconds ++
    "/`" ++ info.sqlTemplate ++ "`"

def notConnected (index : Int) : String := "database_index(" ++
    toString index ++ ") not exists or cannot connect"

def notExists (index : Int) : String := "database_index(" ++ toString index ++ ") not exists"

def querySql (environment : Environment) (info : QueryInfo) (request : QueryRequest) : Except Ending String :=
  if formatStringSize < request.tokens.length then .error (.threw "tokens too many")
  else
    match escapeTokens environment true request.tokens with
    | .error error => .error (.threw error.text)
    | .ok escaped =>
      let sql := formatString info.sqlTemplate escaped
      if sql = "" then
        .error (.threw ("error number of tokens or invalid template(" ++ QueryInfo.str info ++ ")"))
      else .ok (sql ++ limitClause request.limit request.limitStart)

def lookUp (setting : Setting Digest) (now : Nat) (info : QueryInfo) (sql : String) (cache : Cache Digest) :
    Cache Digest × Begun Digest :=
  if info.cachedSeconds < 1 then (cache,.asks info sql)
  else
    match getDataFromCache setting.md5 now sql cache with
    | (cache,some entry) => (cache,.hit info sql entry)
    | (cache,none) => (cache,.asks info sql)

def beginQuery (setting : Setting Digest) (environment : Environment) (tables : Tables) (now : Nat)
    (connections : Connections) (cache : Cache Digest) (request : QueryRequest) :
    Connections × Cache Digest × Begun Digest :=
  match tables.queries.find request.index with
  | none => (connections,cache,.ends (.threw ("query_index(" ++ toString request.index ++ ") not exists")))
  | some info =>
    if request.sign ≠ info.sign then (connections,cache,.ends (.threw "sign error"))
    else
      match getDbConnection environment tables connections info.databaseIndex with
      | none => (connections,cache,.ends .undefined)
      | some (connections,false) => (connections,cache,.ends (.threw (notConnected info.databaseIndex)))
      | some (connections,true) =>
        match querySql environment info request with
        | .error ending => (connections,cache,.ends ending)
        | .ok sql => (connections,lookUp setting now info sql cache)

def finishQuery (setting : Setting Digest) (now : Nat) (info : QueryInfo) (sql : String)
    (answer : Except DbError DBTable) (cache : Cache Digest) : Cache Digest × Ending :=
  match answer with
  | .error error => (cache,.threw error.text)
  | .ok rows =>
    if 0 < info.cachedSeconds ∧ rows ≠ [] then
      (addDataToCache setting.md5 setting.cacheNumber now info.cachedSeconds ⟨info.databaseIndex,
        sql,rows,now⟩ cache,
        .table rows)
    else (cache,.table rows)

structure Outcome (Digest : Type) where
  connections : Connections
  cache : Cache Digest
  statements : List Statement
  ending : Ending

def query (setting : Setting Digest) (environment : Environment) (tables : Tables) (now : Nat)
    (connections : Connections) (cache : Cache Digest) (request : QueryRequest) : Outcome Digest :=
  match beginQuery setting environment tables now connections cache request with
  | (connections,cache,.ends ending) => ⟨connections,cache,[],ending⟩
  | (connections,cache,.hit _ _ entry) => ⟨connections,cache,[],.cached entry.data.cachedData⟩
  | (connections,cache,.asks info sql) =>
    let (cache,ending) := finishQuery setting now info sql environment.answer cache
    ⟨connections,cache,[.mysql info.databaseIndex sql],ending⟩

end

/-- The loop of `write_sql` on a connection: only a disconnection is tried again. -/
def writeDirect (updates : Nat → Except DbError Nat) (database : Int) (sql : String) :
    Nat → Nat → List Statement × Ending
  | 0, _ => ([],.number (-1))
  | left+1, retries =>
    match updates retries with
    | .ok rows => ([.mysql database sql],.number rows)
    | .error error =>
      if error.disconnected then
        let (statements,ending) := writeDirect updates database sql left (retries+1)
        (.mysql database sql::statements,ending)
      else ([.mysql database sql],.number (-1))

section
variable (environment : Environment) (tables : Tables) (connections : Connections) (index : Int)

def writeSql (info : DbInfo) (connected : Bool) (sql : String) :
    List Statement × Ending :=
  if info.dbAlias = "" then
    if connected then writeDirect environment.updates info.index sql 5 0 else ([],.undefined)
  else
    match tables.databases.find info.index with
    | none => ([],.threw "no sql logger")
    | some _ => ([.log info.index sql],if environment.written then .number 0 else .threw "io error")

structure UpdateRequest where
  sign : String
  index : Int
  tokens : List String

/-- `throwException` for the synchronous call only. -/
def failed (throwException : Bool) (message : String) : Ending :=
  if throwException then .threw message else .number (-1)

def doUpdate (throwException : Bool)
    (request : UpdateRequest) : Connections × List Statement × Ending :=
  match tables.updates.find request.index with
  | none => (connections,[],
    failed throwException ("update_index(" ++ toString request.index ++ ") not exists"))
  | some info =>
    match tables.databases.find info.databaseIndex with
    | none => (connections,[],failed throwException (notExists info.databaseIndex))
    | some database =>
      if formatStringSize < request.tokens.length then
        (connections,[],failed throwException "tokens too many")
      else
        match getDbConnection environment tables connections info.databaseIndex with
        | none => (connections,[],.undefined)
        | some (connections,connected) =>
          match escapeTokens environment connected request.tokens with
          | .error error => (connections,[],.raised error)
          | .ok escaped =>
            let sql := formatString info.sqlTemplate escaped
            if sql = "" then
              (connections,[],failed throwException ("tokens number(" ++ toString escaped.length ++
                ") or template error: update_index=" ++ toString request.index))
            else (connections,writeSql environment tables database connected sql)

def update (request : UpdateRequest) :
    Connections × List Statement × Ending := doUpdate environment tables connections true request

def asyncUpdate (request : UpdateRequest) :
    Connections × List Statement × Ending := doUpdate environment tables connections false request

structure Condition where
  op : String
  left : String
  right : String
  isString : Bool

/-- `is_numeric_string` of `c_str()`: digits, and one point that is not the first character. -/
def isNumericString (text : String) : Bool :=
  let chars := text.toList.takeWhile (· ≠ '\x00')
  chars.all (fun char => char.isDigit || char = '.') && chars.count '.' ≤ 1 && chars.head? ≠ some '.'

def escape (text : String) : Except Ending String :=
  match environment.escapeString text with
  | .ok escaped => .ok escaped
  | .error error => .error (.threw error.text)

/-- The statement of `update2` up to its conditions; a map of tokens is in the order of its keys. -/
def updateClause (tablename : String) (tokens : List (String × String)) :
    Except Ending String :=
  if tokens = [] then .ok ""
  else do
    let table ← escape environment tablename
    let assignments ← tokens.mapM fun (name,value) => do
      return (← escape environment name) ++ "=\"" ++ (← escape environment value) ++ "\""
    return "UPDATE " ++ table ++ " SET " ++ ",".intercalate assignments

/-- `numeric` for `update2`, which takes a right side without quotes only as a number and does not
escape it. -/
def whereClause (numeric : Bool) (conditions : List Condition) : Except Ending String :=
  if conditions = [] then .ok ""
  else do
    let nodes ← conditions.mapM fun condition => do
      let head := (← escape environment condition.left) ++ " " ++ (← escape environment condition.op) ++ " "
      if condition.isString then return head ++ "\"" ++ (← escape environment condition.right) ++ "\")"
      else if numeric then
        if isNumericString condition.right then return head ++ condition.right ++ ")"
        else .error (.threw "invalid condition.right")
      else return head ++ (← escape environment condition.right) ++ ")"
    return " WHERE (" ++ " AND (".intercalate nodes

def insertSql (tablename : String) (tokens : List (String × String)) :
    Except Ending String :=
  if tokens = [] then .ok ")"
  else do
    let table ← escape environment tablename
    let names ← tokens.mapM fun (name,_) => escape environment name
    let values ← tokens.mapM fun (_,value) => do return "\"" ++ (← escape environment value) ++ "\""
    return "INSERT INTO " ++ table ++ " (" ++ ",".intercalate
      names ++ ") VALUES (" ++ ",".intercalate values ++ ")"

structure Query2Request where
  database : Int
  tablename : String
  fields : List String
  conditions : List Condition
  groupby : String
  orderby : String
  limit : Int
  limitStart : Int

def optionalClause (words text : String) : Except Ending String :=
  if text = "" then .ok "" else do return words ++ (← escape environment text)

def query2Sql (request : Query2Request) : Except Ending String := do
  let fields ← request.fields.mapM (escape environment)
  let select := if request.fields = [] then "" else "SELECT " ++ ",".intercalate fields
  let table ← escape environment request.tablename
  let conditions ← whereClause environment false request.conditions
  let groupby ← optionalClause environment " GROUP BY " request.groupby
  let orderby ← optionalClause environment " ORDER BY " request.orderby
  return select ++ " FROM " ++ table ++ conditions ++ groupby ++ orderby ++
    limitClause request.limit request.limitStart

def onDatabase (call : DbInfo → List Statement × Ending) : Connections × List Statement × Ending :=
  match tables.databases.find index with
  | none => (connections,[],.threw (notExists index))
  | some info =>
    match getDbConnection environment tables connections index with
    | none => (connections,[],.undefined)
    | some (connections,false) => (connections,[],.threw (notConnected index))
    | some (connections,true) => (connections,call info)

def update2 (tablename : String)
    (tokens : List (String × String)) (conditions : List Condition) : Connections × List Statement × Ending :=
  onDatabase environment tables connections index fun info =>
    match updateClause environment tablename tokens, whereClause environment true conditions with
    | .error ending, _ => ([],ending)
    | _, .error ending => ([],ending)
    | .ok update, .ok conditions => writeSql environment tables info true (update ++ conditions)

/-- The number of rows becomes the id of the inserted row, or 0 where the SQL log gets the statement
and where it failed. -/
def insertEnding (info : DbInfo) : Ending → Ending
  | .number rows => .number (if 0 ≤ rows ∧ info.dbAlias = "" then environment.insertId else 0)
  | ending => ending

def insert2 (tablename : String)
    (tokens : List (String × String)) : Connections × List Statement × Ending :=
  onDatabase environment tables connections index fun info =>
    match insertSql environment tablename tokens with
    | .error ending => ([],ending)
    | .ok sql =>
      let (statements,ending) := writeSql environment tables info true sql
      (statements,insertEnding environment info ending)

def query2 (request : Query2Request) :
    Connections × List Statement × Ending :=
  onDatabase environment tables connections request.database fun info =>
    match query2Sql environment request with
    | .error ending => ([],ending)
    | .ok sql =>
      match environment.answer with
      | .ok rows => ([.mysql info.index sql],.table rows)
      | .error error => ([.mysql info.index sql],.threw error.text)

end

end Mooon.DbProxy.Handler

import Mooon.DbProxy.Counters

/-! What the calls of `CDbProxyHandler` count, against what becomes of them: each call counts its
success or its failure once, needs to count nothing, or is one of those whose failure is not
counted. -/
namespace Mooon.DbProxy.Handler.Report
open Config List Option

def ofSql : Counter → Bool
  | .updateSuccessSql | .updateFailureSql | .writeSuccess | .writeFailure | .errorUpdateSql => true
  | _ => false

/-- All that a call does to the counters of its kind, beside those of the statements it writes. -/
inductive Booking (counted : Prop) (kind : Kind) : Changes → Bool → Bool → Prop
  | succeeded {sql : Changes} (own : ∀ entry ∈ sql, ofSql entry.1 = true) (right : counted) :
    Booking counted kind (sql ++ [(kind.success,1)]) true false
  | failed {sql : Changes} (own : ∀ entry ∈ sql, ofSql entry.1 = true) (right : counted) :
    Booking counted kind (sql ++ [(kind.failure,1)]) false true
  | served (right : counted) : Booking counted kind [] false false
  | missed {sql : Changes} (own : ∀ entry ∈ sql, ofSql entry.1 = true) (wrong : ¬counted) :
    Booking counted kind sql false true
  | taken {counter : Counter} (own : counter = kind.success ∨ counter = kind.failure) (wrong : ¬counted) :
    Booking counted kind [(counter,-1)] false true

section
variable {counted other : Prop} {kind : Kind} {changes : Changes} {succeeded failed : Bool}

theorem Booking.of_iff (booking : Booking counted kind changes succeeded failed) (same : counted ↔ other) :
    Booking other kind changes succeeded failed := by
  rw [← propext same]
  exact booking

theorem Booking.failed_alone (right : counted) : Booking counted kind [(kind.failure,1)] false true := by
  exact .failed (forall_mem_nil _) right

end

section
variable (environment : Environment) {tables : Tables} {info : DbInfo} {sql : String}

theorem writeDirectCounts_sql (updates : Nat → Except DbError Nat) (left retries : Nat) :
    ∀ entry ∈ writeDirectCounts updates left retries, ofSql entry.1 = true := by
  induction left generalizing retries with
  | zero => exact fun _ mem => absurd mem not_mem_nil
  | succ left ih =>
    unfold writeDirectCounts
    split
    · simp [ofSql]
    · split
      · exact forall_mem_cons.mpr ⟨rfl,ih (retries+1)⟩
      · simp [ofSql]

theorem writeSqlCounts_sql (tables : Tables) (info : DbInfo) (connected : Bool) :
    ∀ entry ∈ writeSqlCounts environment tables info connected, ofSql entry.1 = true := by
  unfold writeSqlCounts
  split
  · split
    · exact writeDirectCounts_sql _ _ _
    · simp
  · split
    · simp
    · split <;> simp [ofSql]

/-- What a statement that is written tells: its SQL log takes it, or there is none. -/
def Logged (environment : Environment) (info : DbInfo) : Prop :=
  info.dbAlias ≠ "" → environment.written = true

def Books (counted : Prop) (environment : Environment) (kind : Kind) (changes : Changes)
    (result : List Statement × Ending) : Prop :=
  Booking counted kind changes (accepted environment result.1)
    (!accepted environment result.1 && !isCached result.2)

variable {environment} in
theorem books_nothing {counted : Prop} {kind : Kind} {ending : Ending} (plain : isCached ending = false)
    (wrong : ¬counted) : Books counted environment kind [] ([],ending) := by
  unfold Books
  rw [plain]
  exact .missed (forall_mem_nil _) wrong

variable {environment} in
theorem books_failure {counted : Prop} {kind : Kind} {ending : Ending} (plain : isCached ending = false)
    (right : counted) : Books counted environment kind [(kind.failure,1)] ([],ending) := by
  unfold Books
  rw [plain]
  exact .failed_alone right

theorem accepted_replicate {db : Int} {count : Nat} :
    accepted environment (replicate (count+1) (.mysql db sql)) = (environment.updates count).isOk := by
  unfold accepted
  rw [getLast?_replicate]
  simp

theorem writeSql_books {kind : Kind} (found : tables.databases.find info.index = some info) {connected : Bool}
    (reached : info.dbAlias = "" → connected = true) : Books (Logged environment info) environment kind
      (writeSqlCounts environment tables info connected ++
        numberCounts kind (writeSql environment tables info connected sql).2)
      (writeSql environment tables info connected sql) := by
  have own := writeSqlCounts_sql environment tables info connected
  by_cases direct : info.dbAlias = ""
  · have logged : Logged environment info := fun named => absurd direct named
    obtain ⟨count,value,same,last⟩ := writeDirect_attempts sql environment.updates info.index 4 0
    have written : writeSql environment tables info connected sql =
        (replicate (count+1) (.mysql info.index sql),.number value) := by
      unfold writeSql
      rw [if_pos direct,if_pos (reached direct),same]
    rw [Nat.zero_add] at last
    unfold Books
    rw [written,accepted_replicate]
    dsimp only [numberCounts]
    by_cases taken : 0 ≤ value
    · rw [if_pos taken,last.mp taken]
      exact .succeeded own logged
    · rw [if_neg taken,Bool.eq_false_iff.mpr (mt last.mpr taken)]
      exact .failed own logged
  · have written : writeSql environment tables info connected sql =
        ([.log info.index sql],if environment.written then .number 0 else .threw "io error") := by
      unfold writeSql
      rw [if_neg direct,found]
    rw [written]
    change Booking _ _ _ environment.written (!environment.written && _)
    cases log : environment.written with
    | true => exact .succeeded own (fun _ => log)
    | false =>
      change Booking _ _ (writeSqlCounts environment tables info connected ++ []) false true
      rw [append_nil]
      refine .missed own ?_
      intro logged
      cases (logged direct).symm.trans log

end

/-- A synchronous update has its template, its database and tokens that fit. The tokens of every
update can be escaped, and its statement gets to a connection or into the SQL log. -/
def UpdateCounted (throwException : Bool) (environment : Environment) (tables : Tables)
    (connections : Connections) (request : UpdateRequest) : Prop :=
  (throwException = true → ∃ info database escaped, Addressed tables request info database ∧
    Formatted environment connections request info escaped) ∧
  ∀ info database, Addressed tables request info database →
    ∃ escaped, updateTokens environment connections request info = .ok escaped ∧
      (formatString info.sqlTemplate escaped ≠ "" →
        (database.dbAlias = "" → connected environment connections info.databaseIndex = true) ∧
        Logged environment database)

section
variable {env : Environment} {tables : Tables} {conns : Connections} {throwException : Bool}
  {req : UpdateRequest} {info : UpdateInfo} {db : DbInfo}

theorem doUpdateCounts_raised (aimed : Addressed tables req info db) {error : DbError}
    (unescaped : updateTokens env conns req info = .error error) :
    doUpdateCounts env tables conns req = [] := by
  obtain ⟨after,opened⟩ := getDbConnection_of_find env conns aimed.known
  have few := Nat.not_lt.mpr aimed.few
  unfold updateTokens at unescaped
  simp only [doUpdateCounts,aimed.template,aimed.known,if_neg few,opened,unescaped]

variable {escaped : List String}

theorem doUpdateCounts_escaped (aimed : Addressed tables req info db)
    (escapes : updateTokens env conns req info = .ok escaped) :
    doUpdateCounts env tables conns req =
      if formatString info.sqlTemplate escaped = "" then []
      else writeSqlCounts env tables db (connected env conns info.databaseIndex) := by
  obtain ⟨after,opened⟩ := getDbConnection_of_find env conns aimed.known
  have few := Nat.not_lt.mpr aimed.few
  unfold updateTokens at escapes
  simp only [doUpdateCounts,aimed.template,aimed.known,if_neg few,opened,escapes]

theorem doUpdateCounts_unaddressed (unaddressed : ∀ info db, ¬ Addressed tables req info db) :
    doUpdateCounts env tables conns req = [] := by
  unfold doUpdateCounts
  cases template : tables.updates.find req.index with
  | none => rfl
  | some info =>
    dsimp only
    cases known : tables.databases.find info.databaseIndex with
    | none => rfl
    | some db =>
      split_ifs with few
      · rfl
      · exact absurd ⟨template,known,Nat.not_lt.mp few⟩ (unaddressed info db)

theorem failed_books {counted : Prop} {kind : Kind} {msg : String}
    (asynchronous : counted ↔ throwException = false) :
    Books counted env kind (numberCounts kind (failed throwException msg))
      ([],failed throwException msg) := by
  cases throwException with
  | true => exact books_nothing rfl (fun right => absurd (asynchronous.mp right) (by decide))
  | false => exact books_failure rfl (asynchronous.mpr rfl)

theorem updateCounted_unaddressed (unaddressed : ∀ info db, ¬ Addressed tables req info db) :
    UpdateCounted throwException env tables conns req ↔ throwException = false := by
  constructor
  · intro right
    apply Bool.eq_false_iff.mpr
    intro throws
    obtain ⟨info,db,_,aimed,_⟩ := right.1 throws
    exact unaddressed info db aimed
  · intro silent
    refine ⟨fun throws => ?_,fun info db aimed => absurd aimed (unaddressed info db)⟩
    cases silent.symm.trans throws

variable (throwException) in
theorem updateCounted_escaped (aimed : Addressed tables req info db)
    (escapes : updateTokens env conns req info = .ok escaped) :
    UpdateCounted throwException env tables conns req ↔
      (throwException = true → formatString info.sqlTemplate escaped ≠ "") ∧
      (formatString info.sqlTemplate escaped ≠ "" →
        (db.dbAlias = "" → connected env conns info.databaseIndex = true) ∧
        Logged env db) := by
  constructor
  · intro right
    constructor
    · intro throws
      obtain ⟨_,_,_,addressed',formatted⟩ := right.1 throws
      obtain ⟨rfl,rfl⟩ := aimed.unique addressed'
      cases escapes.symm.trans formatted.1
      exact formatted.2
    · obtain ⟨_,escapes',later⟩ := right.2 info db aimed
      cases escapes.symm.trans escapes'
      exact later
  · intro right
    constructor
    · exact fun throws => ⟨info,db,escaped,aimed,escapes,right.1 throws⟩
    · intro info' database' addressed'
      obtain ⟨rfl,rfl⟩ := aimed.unique addressed'
      exact ⟨escaped,escapes,right.2⟩

theorem updateCounts_books {kind : Kind} :
    Books (UpdateCounted throwException env tables conns req) env kind
      (updateCounts kind throwException env tables conns req)
      (doUpdate env tables conns throwException req).2 := by
  unfold updateCounts
  by_cases some : ∃ info db, Addressed tables req info db
  · obtain ⟨info,db,aimed⟩ := some
    cases tokens : updateTokens env conns req info with
    | error error =>
      rw [doUpdate_raised aimed tokens,doUpdateCounts_raised aimed tokens]
      refine books_nothing rfl ?_
      intro right
      obtain ⟨escaped,escapes,_⟩ := right.2 info db aimed
      cases escapes.symm.trans tokens
    | ok escaped =>
      rw [doUpdate_escaped aimed tokens,doUpdateCounts_escaped aimed tokens]
      have right := updateCounted_escaped throwException aimed tokens
      by_cases empty : formatString info.sqlTemplate escaped = ""
      · rw [if_pos empty,if_pos empty]
        apply failed_books
        rw [right]
        simp [empty]
      · rw [if_neg empty,if_neg empty]
        by_cases reached : db.dbAlias = "" → connected env conns info.databaseIndex = true
        · refine (writeSql_books env aimed.logged reached).of_iff ?_
          rw [right]
          exact ⟨fun logged => ⟨fun _ => empty,fun _ => ⟨reached,logged⟩⟩,fun counted => (counted.2 empty).2⟩
        · obtain ⟨direct,closed⟩ := Classical.not_imp.mp reached
          unfold writeSql writeSqlCounts
          rw [if_pos direct,if_pos direct,if_neg closed,if_neg closed]
          refine books_nothing rfl ?_
          intro counted
          exact reached ((right.mp counted).2 empty).1
  · have none : ∀ info db, ¬ Addressed tables req info db :=
      fun info db aimed => some ⟨info,db,aimed⟩
    obtain ⟨msg,res⟩ := doUpdate_unaddressed none
    rw [res,doUpdateCounts_unaddressed none]
    exact failed_books (updateCounted_unaddressed none)

end

/-- A statement that is built, on a database that is there and connected, gets into the SQL log. -/
def WriteCounted (environment : Environment) (tables : Tables) (connections : Connections) (index : Int)
    (sql : Except Ending String) : Prop :=
  ∀ info, tables.databases.find index = some info → connected environment connections index = true →
    ∀ text, sql = .ok text → Logged environment info

def writeBuilt (environment : Environment) (tables : Tables) (info : DbInfo) :
    Except Ending String → List Statement × Ending
  | .error ending => ([],ending)
  | .ok sql => writeSql environment tables info true sql

section
variable {env : Environment} {tables : Tables} {conns : Connections} {index : Int}

theorem onDatabase_books {kind : Kind} {counted : DbInfo → Prop} {call : DbInfo → List Statement × Ending}
    {changes : DbInfo → Changes} (each : ∀ info, tables.databases.find info.index = some info →
      Books (counted info) env kind (changes info) (call info)) :
    Books (∀ info, tables.databases.find index = some info → connected env conns index = true →
        counted info) env kind
      (onDatabaseCounts env tables conns index [(kind.failure,1)] changes)
      (onDatabase env tables conns index call).2 := by
  unfold onDatabaseCounts onDatabase
  cases found : tables.databases.find index with
  | none =>
    refine books_failure rfl ?_
    intro info bad
    cases bad
  | some info =>
    obtain ⟨after,opened⟩ := getDbConnection_of_find env conns found
    rw [opened]
    cases connected env conns index with
    | false =>
      refine books_failure rfl ?_
      intro _ _ bad
      cases bad
    | true =>
      refine (each info (by rw [(Slots.find_some found).1]; exact found)).of_iff ?_
      constructor
      · rintro counted _ ⟨⟩ _
        exact counted
      · exact fun counted => counted info rfl rfl

variable (env) in
theorem writeBuilt_books (kind : Kind) {info : DbInfo} (found : tables.databases.find info.index = some info)
    {sql : Except Ending String} (throws : Throws sql) :
    Books (∀ text, sql = .ok text → Logged env info) env kind
      (writtenCounts kind env tables info sql) (writeBuilt env tables info sql) := by
  cases sql with
  | error ending =>
    obtain ⟨msg,rfl⟩ := throws ending rfl
    refine books_failure rfl ?_
    intro text bad
    cases bad
  | ok sql =>
    refine (writeSql_books env found (fun _ => rfl)).of_iff ?_
    constructor
    · rintro logged _ ⟨⟩
      exact logged
    · exact fun counted => counted sql rfl

variable {tablename : String} {tokens : List (String × String)} {conditions : List Condition}

theorem throws_update2Sql : Throws (update2Sql env tablename tokens conditions) := by
  unfold update2Sql
  split
  · rename_i error
    rintro _ ⟨⟩
    exact throws_updateClause env tablename tokens _ error
  · rename_i error _
    rintro _ ⟨⟩
    exact throws_whereClause env true conditions _ error
  · exact throws_ok _

theorem update2_eq : update2 env tables conns index tablename tokens conditions =
      onDatabase env tables conns index fun info =>
        writeBuilt env tables info (update2Sql env tablename tokens conditions) := by
  unfold update2 update2Sql
  cases updateClause env tablename tokens with
  | error ending => rfl
  | ok update =>
    cases whereClause env true conditions with
    | error ending | ok clause => rfl

theorem insertEnding_isCached {info : DbInfo} {ending : Ending} :
    isCached (insertEnding env info ending) = isCached ending := by
  cases ending <;> rfl

theorem update2_books :
    Books (WriteCounted env tables conns index (update2Sql env tablename tokens conditions))
      env .update2 (update2Counts env tables conns index tablename tokens conditions)
      (update2 env tables conns index tablename tokens conditions).2 := by
  rw [update2_eq]
  apply onDatabase_books
  intro info found
  exact writeBuilt_books env .update2 found throws_update2Sql

theorem insert2_books :
    Books (WriteCounted env tables conns index (insertSql env tablename tokens))
      env .insert2 (insert2Counts env tables conns index tablename tokens)
      (insert2 env tables conns index tablename tokens).2 := by
  apply onDatabase_books
  intro info found
  have books := writeBuilt_books env .insert2 found (throws_insertSql env tablename tokens)
  cases built : insertSql env tablename tokens with
  | error ending =>
    rw [built] at books
    exact books
  | ok sql =>
    rw [built] at books
    unfold Books at books ⊢
    rw [insertEnding_isCached]
    exact books

end

def Asks (counted : Prop) (environment : Environment) (kind : Kind) (changes : Changes)
    (result : List Statement × Ending) : Prop :=
  Booking counted kind changes (decide (result.1 ≠ []) && environment.answer.isOk)
    (!(decide (result.1 ≠ []) && environment.answer.isOk) && !isCached result.2)

def Query2Counted (environment : Environment) (tables : Tables) (connections : Connections)
    (request : Query2Request) : Prop :=
  (∃ info, tables.databases.find request.database = some info) ∧
    connected environment connections request.database = true ∧
      (∃ sql, query2Sql environment request = .ok sql) ∧
    ∃ rows, environment.answer = .ok rows

section
variable {env : Environment} {counted : Prop} {kind : Kind} {ending : Ending}

theorem asks_nothing (plain : isCached ending = false)
    (wrong : ¬counted) : Asks counted env kind [] ([],ending) := by
  unfold Asks
  rw [plain]
  exact .missed (forall_mem_nil _) wrong

theorem asks_taken {counter : Counter} {res : List Statement × Ending}
    (own : counter = kind.success ∨ counter = kind.failure)
    (unanswered : res.1 = [] ∨ env.answer.isOk = false) (plain : isCached res.2 = false)
    (wrong : ¬counted) : Asks counted env kind [(counter,-1)] res := by
  have missed : (decide (res.1 ≠ []) && env.answer.isOk) = false := by
    rcases unanswered with none | error
    · rw [none]
      rfl
    · rw [error,Bool.and_false]
  unfold Asks
  rw [missed,plain]
  exact .taken own wrong

theorem asks_answered {stmt : Statement} {rows : DBTable}
    (answer : env.answer = .ok rows) (right : counted) :
    Asks counted env kind [(kind.success,1)] ([stmt],ending) := by
  unfold Asks
  rw [answer]
  exact .succeeded (forall_mem_nil _) right

theorem query2_asks {tables : Tables} {conns : Connections} {req : Query2Request} :
    Asks (Query2Counted env tables conns req) env .query2
      (query2Counts env tables conns req) (query2 env tables conns req).2 := by
  unfold query2Counts query2 onDatabaseCounts onDatabase
  cases found : tables.databases.find req.database with
  | none =>
    refine asks_nothing rfl ?_
    rintro ⟨⟨info,there⟩,_⟩
    cases found.symm.trans there
  | some info =>
    obtain ⟨after,opened⟩ := getDbConnection_of_find env conns found
    rw [opened]
    cases open' : connected env conns req.database with
    | false =>
      refine asks_nothing rfl ?_
      intro right
      cases right.2.1.symm.trans open'
    | true =>
      cases built : query2Sql env req with
      | error ending =>
        obtain ⟨msg,rfl⟩ := throws_query2Sql env req ending built
        refine asks_taken (.inl rfl) (.inl rfl) rfl ?_
        rintro ⟨_,_,⟨sql,there⟩,_⟩
        cases built.symm.trans there
      | ok sql =>
        cases answer : env.answer with
        | ok rows => exact asks_answered answer ⟨⟨info,found⟩,open',⟨sql,built⟩,rows,answer⟩
        | error error =>
          refine asks_taken (.inl rfl) (.inr (by rw [answer]; rfl)) rfl ?_
          rintro ⟨_,_,_,rows,there⟩
          cases answer.symm.trans there

end

section
variable {Digest : Type} [DecidableEq Digest]

def QueryCounted (context : Context Digest) (request : QueryRequest) : Prop :=
  ∃ info after sql, Built context.environment context.tables context.connections request info after sql ∧
    (1 ≤ info.cachedSeconds ∧ context.cache.table.find (context.setting.md5 sql) ≠ none ∨
      ∃ rows, context.environment.answer = .ok rows)

section
variable {ctx : Context Digest} {req : QueryRequest}

theorem isCached_of_ends {ending : Ending} (ends : ending = .undefined ∨ ∃ msg, ending = .threw msg) :
    isCached ending = false := by
  rcases ends with rfl | ⟨msg,rfl⟩ <;> rfl

theorem queryCounts_unbuilt
    (none : ∀ info after sql, ¬ Built ctx.environment ctx.tables ctx.connections req info after sql) :
    queryCounts ctx req = [] ∨ queryCounts ctx req = [(.queryFailure,-1)] := by
  unfold queryCounts
  split
  · exact .inl rfl
  · rename_i info template
    split_ifs with sign
    · exact .inl rfl
    · split
      · exact .inl rfl
      · exact .inl rfl
      · rename_i after conn
        split
        · unfold querySqlCounts
          split
          · exact .inl rfl
          · split
            · exact .inr rfl
            · exact .inl rfl
        · rename_i sql stmt
          exact absurd ⟨template,not_not.mp sign,conn,stmt⟩ (none info after sql)

variable {info : QueryInfo} {sql : String}

theorem queryCounts_built {after : Connections}
    (built : Built ctx.environment ctx.tables ctx.connections req info after sql) :
    queryCounts ctx req = [] ∧ 1 ≤ info.cachedSeconds ∧
        ctx.cache.table.find (ctx.setting.md5 sql) ≠ none ∨ queryCounts ctx req =
          [if ctx.environment.answer.isOk then (.querySuccess,1) else (.queryFailure,-1)] ∧
        (info.cachedSeconds < 1 ∨ ctx.cache.table.find (ctx.setting.md5 sql) = none) := by
  unfold queryCounts
  simp only [built.template,if_neg (not_not.mpr built.sign),built.connection,built.statement]
  rcases lookUp_cases ctx.setting ctx.now info sql ctx.cache with
    ⟨entry,looked,cached,there⟩ | ⟨looked,absent⟩
  · rw [looked,there]
    exact .inl ⟨rfl,cached,some_ne_none entry⟩
  · rw [looked]
    refine .inr ⟨?_,absent⟩
    cases ctx.environment.answer with
    | ok rows | error error => rfl

theorem not_stored
    (absent : info.cachedSeconds < 1 ∨ ctx.cache.table.find (ctx.setting.md5 sql) = none) :
    ¬(1 ≤ info.cachedSeconds ∧ ctx.cache.table.find (ctx.setting.md5 sql) ≠ none) := by
  rintro ⟨cached,stored⟩
  rcases absent with uncached | none
  · omega
  · exact stored none

theorem query_asks : Asks (QueryCounted ctx req) ctx.environment .query (queryCounts ctx req)
      (handle ctx (.query req)) := by
  obtain ⟨outcome,course,same⟩ := handle_query ctx req
  rw [same]
  cases course with
  | unbuilt none ends =>
    have wrong : ¬QueryCounted ctx req := fun ⟨info,after,sql,built,_⟩ => none info after sql built
    rcases queryCounts_unbuilt none with nothing | subtracted
    · rw [nothing]
      exact asks_nothing (isCached_of_ends ends) wrong
    · rw [subtracted]
      exact asks_taken (.inr rfl) (.inl rfl) (isCached_of_ends ends) wrong
  | hit built cached there =>
    rcases queryCounts_built built with ⟨nothing,stored⟩ | ⟨_,absent⟩
    · rw [nothing]
      exact .served ⟨_,_,_,built,.inl stored⟩
    · refine absurd ⟨cached,?_⟩ (not_stored absent)
      rw [there]
      exact some_ne_none _
  | asked built absent =>
    rcases queryCounts_built built with ⟨_,stored⟩ | ⟨counted,_⟩
    · exact absurd stored (not_stored absent)
    · rw [counted]
      cases answer : ctx.environment.answer with
      | ok rows => exact asks_answered answer ⟨_,_,_,built,.inr ⟨rows,answer⟩⟩
      | error error =>
        refine asks_taken (.inr rfl) (.inr (by rw [answer]; rfl)) rfl ?_
        rintro ⟨_,_,_,built',either⟩
        obtain ⟨rfl,rfl⟩ := built.unique built'
        rcases either with stored | ⟨rows,replied⟩
        · exact not_stored absent stored
        · cases answer.symm.trans replied

end

end

section
variable {Digest : Type} [DecidableEq Digest]

def Counted (context : Context Digest) : Call → Prop
  | .query request => QueryCounted context request
  | .update request => UpdateCounted true context.environment context.tables context.connections request
  | .asyncUpdate request => UpdateCounted false context.environment context.tables context.connections request
  | .update2 index tablename tokens conditions =>
    WriteCounted context.environment context.tables context.connections index
      (update2Sql context.environment tablename tokens conditions)
  | .insert2 index tablename tokens =>
    WriteCounted context.environment context.tables context.connections index
      (insertSql context.environment tablename tokens)
  | .query2 request => Query2Counted context.environment context.tables context.connections request

theorem booked (ctx : Context Digest) (call : Call) :
    Booking (Counted ctx call) (kindOf call) (counts ctx call) (succeeds ctx call) (fails ctx call) := by
  cases call with
  | query req => exact query_asks
  | update req | asyncUpdate req => exact updateCounts_books
  | update2 index tablename tokens conditions => exact update2_books
  | insert2 index tablename tokens => exact insert2_books
  | query2 req => exact query2_asks

end

end Mooon.DbProxy.Handler.Report

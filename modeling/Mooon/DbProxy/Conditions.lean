import Mathlib.Data.List.TakeWhile
import Mooon.DbProxy.Calls
import Mooon.Literal

/-! The right sides of conditions in the statements of `query2` and `update2`: what the two calls
place there, and for which conditions no value can change the statement, provided that MySQL's
escaping is right. -/
namespace Mooon.DbProxy.Handler.Conditions
open Config List

section
variable (environment : Environment) (numeric : Bool) (condition : Condition)

def rightText : Except Ending String :=
  if condition.isString then do return "\"" ++ (← escape environment condition.right) ++ "\""
  else if numeric then
    if isNumericString condition.right then .ok condition.right else .error (.threw "invalid condition.right")
  else escape environment condition.right

def node : Except Ending String := do
  let left ← escape environment condition.left
  let op ← escape environment condition.op
  let right ← rightText environment numeric condition
  return left ++ " " ++ op ++ " " ++ right ++ ")"

def sqlText : Statement → String
  | .mysql _ sql => sql
  | .log _ sql => sql

/-- `escape_string` fails or does what MySQL documents. -/
def Escapes : Prop :=
  ∀ text escaped, environment.escapeString text = .ok escaped → escaped.toList = Literal.escape text.toList

/-- A literal that MySQL reads as the value, whatever follows but another quote; or a number or the
name of a field. -/
def Safe (text : String) : Prop :=
  if condition.isString then
    text.toList = Literal.quote :: Literal.escape condition.right.toList ++ [Literal.quote] ∧
      ∀ rest : List Char, rest.head? ≠ some Literal.quote →
        Literal.read (text.toList.tail ++ rest) = some (condition.right.toList,rest)
  else Literal.Word text.toList

def Guarded (conditions : List Condition) (statements : List Statement) :
    Prop :=
  ∀ statement ∈ statements, ∃ before clause after, whereClause environment numeric conditions = .ok clause ∧
    sqlText statement = before ++ clause ++ after ∧
    ∀ condition ∈ conditions, ∃ text, rightText environment numeric condition = .ok text ∧ Safe condition text

end

section
variable {α β : Type} {next : α → Except Ending β}

theorem bind_ok {builder : Except Ending α} {value : β} :
    (builder >>= next) = .ok value ↔ ∃ first, builder = .ok first ∧ next first = .ok value := by
  cases builder with
  | error ending =>
    constructor
    · intro res
      cases res
    · rintro ⟨first,error,-⟩
      cases error
  | ok first =>
    constructor
    · exact fun res => ⟨first,rfl,res⟩
    · rintro ⟨_,⟨⟩,res⟩
      exact res

theorem mapM_ok {values : List α} :
    (∃ ress, values.mapM next = .ok ress) ↔ ∀ value ∈ values, ∃ res, next value = .ok res := by
  induction values with
  | nil => exact iff_of_true ⟨[],rfl⟩ (by simp)
  | cons value rest ih =>
    simp only [mapM_cons,bind_ok,forall_mem_cons,← ih]
    constructor
    · rintro ⟨_,first,one,others,more,-⟩
      exact ⟨⟨first,one⟩,others,more⟩
    · rintro ⟨⟨first,one⟩,others,more⟩
      exact ⟨first::others,first,one,others,more,rfl⟩

end

theorem whereClause_eq {env : Environment} {numeric : Bool} {conditions : List Condition} :
    whereClause env numeric conditions = if conditions = [] then .ok "" else do
      let nodes ← conditions.mapM (node env numeric)
      return " WHERE (" ++ " AND (".intercalate nodes := by
  unfold whereClause
  congr
  funext cond
  unfold node rightText
  cases escape env cond.left with
  | error ending => rfl
  | ok left =>
    cases escape env cond.op with
    | error ending => rfl
    | ok op =>
      cases cond.isString with
      | true =>
        cases escape env cond.right with
        | error ending => rfl
        | ok right =>
          change Except.ok (left ++ " " ++ op ++ " " ++ "\"" ++ right ++ ("\"" ++ ")")) =
            .ok (left ++ " " ++ op ++ " " ++ ("\"" ++ right ++ "\"") ++ ")")
          simp only [String.append_assoc]
      | false =>
        cases numeric with
        | true =>
          cases isNumericString cond.right with
          | true | false => rfl
        | false =>
          cases escape env cond.right with
          | error ending | ok right => rfl

section
variable {env : Environment} {numeric : Bool} {conditions : List Condition}

theorem whereClause_right {clause : String} (built : whereClause env numeric conditions = .ok clause)
    {cond : Condition} (mem : cond ∈ conditions) :
    ∃ text, rightText env numeric cond = .ok text := by
  rw [whereClause_eq,if_neg (ne_nil_of_mem mem),bind_ok] at built
  obtain ⟨nodes,all,-⟩ := built
  obtain ⟨res,one⟩ := mapM_ok.mp ⟨nodes,all⟩ cond mem
  simp only [node,bind_ok] at one
  obtain ⟨left,-,op,-,text,placed,-⟩ := one
  exact ⟨text,placed⟩

theorem whereClause_built (escapes : ∀ text, ∃ escaped, escape env text = .ok escaped)
    (placed : ∀ cond ∈ conditions, ∃ text, rightText env numeric cond = .ok text) :
    ∃ clause, whereClause env numeric conditions = .ok clause := by
  rw [whereClause_eq]
  split
  · exact ⟨"",rfl⟩
  · obtain ⟨nodes,all⟩ : ∃ nodes, conditions.mapM (node env numeric) = .ok nodes := by
      apply mapM_ok.mpr
      intro cond mem
      obtain ⟨left,escapedLeft⟩ := escapes cond.left
      obtain ⟨op,escapedOp⟩ := escapes cond.op
      obtain ⟨text,right⟩ := placed cond mem
      refine ⟨left ++ " " ++ op ++ " " ++ text ++ ")",?_⟩
      simp only [node,bind_ok]
      exact ⟨left,escapedLeft,op,escapedOp,text,right,rfl⟩
    exact ⟨_,bind_ok.mpr ⟨nodes,all,rfl⟩⟩

end

section
variable {env : Environment} {numeric : Bool} {cond : Condition} {text : String}

theorem escape_ok (escapes : Escapes env) {escaped : String} (done : escape env text = .ok escaped) :
    escaped.toList = Literal.escape text.toList := by
  unfold escape at done
  cases res : env.escapeString text with
  | error error =>
    rw [res] at done
    cases done
  | ok value =>
    rw [res] at done
    cases done
    exact escapes text escaped res

theorem safe_quoted (escapes : Escapes env) (quoted : cond.isString = true)
    (placed : rightText env numeric cond = .ok text) : Safe cond text := by
  unfold rightText at placed
  rw [if_pos quoted,bind_ok] at placed
  obtain ⟨escaped,done,⟨⟩⟩ := placed
  have chars : ("\"" ++ escaped ++ "\"").toList =
      Literal.quote :: Literal.escape cond.right.toList ++ [Literal.quote] := by
    rw [String.toList_append,String.toList_append,escape_ok escapes done]
    rfl
  unfold Safe
  rw [if_pos quoted]
  refine ⟨chars,?_⟩
  intro rest single
  rw [chars]
  simpa using Literal.read_escape cond.right.toList single

theorem safe_unquoted (unquoted : cond.isString = false) : Safe cond text ↔ Literal.Word text.toList := by
  unfold Safe
  rw [unquoted]
  exact Iff.rfl

theorem safe_escaped (escapes : Escapes env) (unquoted : cond.isString = false)
    (placed : rightText env false cond = .ok text) :
    Safe cond text ↔ Literal.Word cond.right.toList := by
  unfold rightText at placed
  rw [unquoted] at placed
  rw [safe_unquoted unquoted,escape_ok escapes placed,Literal.escape_word]

theorem word_of_numeric (isNumeric : isNumericString text = true) :
    Literal.Word text.toList ↔ text ≠ "" ∧ '\x00' ∉ text.toList := by
  unfold Literal.Word
  rw [Ne,String.toList_eq_nil_iff]
  apply and_congr_right
  intro _
  constructor
  · intro words mem
    exact absurd (words _ mem) (by decide)
  · intro whole char mem
    have all : text.toList.takeWhile (· ≠ '\x00') = text.toList := by
      refine takeWhile_eq_self_iff.mpr ?_
      intro other there
      have nonzero : other ≠ '\x00' := fun zero => whole (zero ▸ there)
      simpa using nonzero
    unfold isNumericString at isNumeric
    rw [all] at isNumeric
    simp only [Bool.and_eq_true,all_eq_true] at isNumeric
    have digit := isNumeric.1.1 char mem
    simp only [Literal.wordChar,Char.isAlphanum]
    grind

theorem safe_numeric (unquoted : cond.isString = false)
    (placed : rightText env true cond = .ok text) :
    Safe cond text ↔ cond.right ≠ "" ∧ '\x00' ∉ cond.right.toList := by
  unfold rightText at placed
  rw [unquoted] at placed
  cases isNumeric : isNumericString cond.right with
  | false =>
    rw [isNumeric] at placed
    cases placed
  | true =>
    rw [isNumeric] at placed
    cases placed
    rw [safe_unquoted unquoted,word_of_numeric isNumeric]

end

section
variable {env : Environment} {tables : Tables} {conns : Connections} {conditions : List Condition}
  {stmt : Statement} {index : Int}

theorem mem_onDatabase {call : DbInfo → List Statement × Ending}
    (issued : stmt ∈ (onDatabase env tables conns index call).2.1) :
    ∃ info, stmt ∈ (call info).1 := by
  unfold onDatabase at issued
  cases found : tables.databases.find index with
  | none =>
    rw [found] at issued
    cases issued
  | some info =>
    rw [found] at issued
    dsimp only at issued
    split at issued
    · cases issued
    · cases issued
    · exact ⟨info,issued⟩

variable {sql : String}

theorem writeDirect_sql {updates : Nat → Except DbError Nat} {db : Int} {left retries : Nat}
    (issued : stmt ∈ (writeDirect updates db sql left retries).1) : sqlText stmt = sql := by
  induction left generalizing retries with
  | zero => cases issued
  | succ left ih =>
    unfold writeDirect at issued
    split at issued
    · cases mem_singleton.mp issued
      rfl
    · split at issued
      · rcases mem_cons.mp issued with rfl | later
        · rfl
        · exact ih later
      · cases mem_singleton.mp issued
        rfl

theorem writeSql_sql {info : DbInfo} {connected : Bool}
    (issued : stmt ∈ (writeSql env tables info connected sql).1) : sqlText stmt = sql := by
  unfold writeSql at issued
  split at issued
  · split at issued
    · exact writeDirect_sql issued
    · cases issued
  · split at issued
    · cases issued
    · cases mem_singleton.mp issued
      rfl

theorem mem_update2 {tablename : String} {tokens : List (String × String)}
    (issued : stmt ∈ (update2 env tables conns index tablename tokens conditions).2.1) :
    ∃ before clause after, whereClause env true conditions = .ok clause ∧
      sqlText stmt = before ++ clause ++ after := by
  obtain ⟨info,issued⟩ := mem_onDatabase issued
  split at issued
  · cases issued
  · cases issued
  · rename_i before clause _ built
    refine ⟨before,clause,"",built,?_⟩
    rw [writeSql_sql issued,String.append_empty]

variable {req : Query2Request}

theorem query2Sql_clause (built : query2Sql env req = .ok sql) :
    ∃ before clause after, whereClause env false req.conditions = .ok clause ∧
      sql = before ++ clause ++ after := by
  unfold query2Sql at built
  simp only [bind_ok] at built
  obtain ⟨fields,-,table,-,clause,conditions,groupby,-,orderby,-,⟨⟩⟩ := built
  refine ⟨(if req.fields = [] then "" else "SELECT " ++ ",".intercalate fields) ++ " FROM " ++ table,clause,
    groupby ++ orderby ++ limitClause req.limit req.limitStart,conditions,?_⟩
  simp only [String.append_assoc]

theorem mem_query2 (issued : stmt ∈ (query2 env tables conns req).2.1) :
    ∃ before clause after, whereClause env false req.conditions = .ok clause ∧
      sqlText stmt = before ++ clause ++ after := by
  obtain ⟨info,issued⟩ := mem_onDatabase issued
  split at issued
  · cases issued
  · rename_i sql built
    have same : sqlText stmt = sql := by
      split at issued
      all_goals
        cases mem_singleton.mp issued
        rfl
    rw [same]
    exact query2Sql_clause built

end

/-- The right sides without quotes are numbers or names of fields. -/
def Words (conditions : List Condition) : Prop :=
  ∀ condition ∈ conditions, condition.isString = false → Literal.Word condition.right.toList

/-- A right side without quotes is rejected, or none is empty or has a zero character. -/
def Checked (conditions : List Condition) : Prop :=
  (∃ condition ∈ conditions, condition.isString = false ∧ isNumericString condition.right = false) ∨
    ∀ condition ∈ conditions, condition.isString = false → condition.right ≠ "" ∧
      '\x00' ∉ condition.right.toList

def escaping : Environment :=
  {sampleEnvironment .opened with
    escapeString := fun text => .ok (String.ofList (Literal.escape text.toList))}

theorem escaping_escapes : Escapes escaping := by
  rintro text _ ⟨⟩
  exact String.toList_ofList

theorem escaping_escape (text : String) : ∃ escaped, escape escaping text = .ok escaped := ⟨_,rfl⟩

section
variable {conditions : List Condition} {clause : String}

theorem update2_issued (built : whereClause escaping true conditions = .ok clause) :
    .log 0 ("" ++ clause) ∈ (update2 escaping sampleTables (fun _ => false) 0 "" [] conditions).2.1 := by
  unfold update2
  rw [built]
  exact mem_singleton.mpr rfl

theorem query2_issued (built : whereClause escaping false conditions = .ok clause) :
    ∃ stmt, stmt ∈ (query2 escaping sampleTables (fun _ => false) ⟨0,"",[],conditions,"","",1,-1⟩).2.1 := by
  unfold query2
  have sql : query2Sql escaping ⟨0,"",[],conditions,"","",1,-1⟩ =
      .ok ("" ++ " FROM " ++ "" ++ clause ++ "" ++ "" ++ limitClause 1 (-1)) := by
    unfold query2Sql
    rw [built]
    rfl
  rw [sql]
  exact ⟨_,mem_singleton.mpr rfl⟩

theorem clause_built {numeric : Bool}
    (accepted : numeric = true → ∀ cond ∈ conditions, cond.isString = false →
      isNumericString cond.right = true) :
      ∃ clause, whereClause escaping numeric conditions = .ok clause := by
  apply whereClause_built escaping_escape
  intro cond mem
  unfold rightText
  cases quoted : cond.isString with
  | true => exact ⟨_,rfl⟩
  | false =>
    cases numeric with
    | true =>
      rw [accepted rfl cond mem quoted]
      exact ⟨_,rfl⟩
    | false => exact escaping_escape cond.right

section
variable {env : Environment} {tables : Tables} {conns : Connections} (escapes : Escapes env)
include escapes

theorem guarded_of_unquoted {numeric : Bool} {statements : List Statement}
    (stand : ∀ stmt ∈ statements, ∃ before clause after, whereClause env numeric conditions = .ok clause ∧
      sqlText stmt = before ++ clause ++ after)
    (unquoted : ∀ clause, whereClause env numeric conditions = .ok clause → ∀ cond ∈ conditions,
      cond.isString = false → ∀ text, rightText env numeric cond = .ok text → Safe cond text) :
    Guarded env numeric conditions statements := by
  intro stmt issued
  obtain ⟨before,clause,after,built,sql⟩ := stand stmt issued
  refine ⟨before,clause,after,built,sql,?_⟩
  intro cond mem
  obtain ⟨text,placed⟩ := whereClause_right built mem
  refine ⟨text,placed,?_⟩
  cases quoted : cond.isString with
  | true => exact safe_quoted escapes quoted placed
  | false => exact unquoted clause built cond mem quoted text placed

theorem query2_guarded (words : Words conditions) {req : Query2Request} (same : req.conditions = conditions) :
    Guarded env false conditions (query2 env tables conns req).2.1 := by
  subst same
  apply guarded_of_unquoted escapes
  · exact fun stmt issued => mem_query2 issued
  · intro clause built cond mem quoted text placed
    exact (safe_escaped escapes quoted placed).mpr (words cond mem quoted)

theorem update2_guarded (checked : Checked conditions) {index : Int} {tablename : String}
    {tokens : List (String × String)} : Guarded env true conditions
      (update2 env tables conns index tablename tokens conditions).2.1 := by
  apply guarded_of_unquoted escapes
  · exact fun stmt issued => mem_update2 issued
  · intro clause built cond mem quoted text placed
    rcases checked with ⟨other,there,unquoted,rejected⟩ | accepted
    · obtain ⟨_,bad⟩ := whereClause_right built there
      unfold rightText at bad
      rw [unquoted,rejected] at bad
      cases bad
    · exact (safe_numeric quoted placed).mpr (accepted cond mem quoted)

end

end

/-- No value of a condition can change a statement of `query2` exactly when the right sides without
quotes are words, and of `update2` exactly when they are not empty and end where their C strings
end, unless one is rejected. -/
theorem operands_guarded_iff (conditions : List Condition) :
    ((∀ environment tables connections (request : Query2Request), Escapes environment →
        request.conditions = conditions →
        Guarded environment false conditions (query2 environment tables connections request).2.1) ↔
          Words conditions) ∧
    ((∀ environment tables connections index tablename tokens, Escapes environment →
      Guarded environment true conditions
          (update2 environment tables connections index tablename tokens conditions).2.1) ↔
            Checked conditions) := by
  refine ⟨⟨?_,?_⟩,⟨?_,?_⟩⟩
  · intro guarded condition member unquoted
    obtain ⟨clause,built⟩ :=
      clause_built (fun numeric => absurd numeric Bool.false_ne_true)
    obtain ⟨statement,issued⟩ := query2_issued built
    obtain ⟨_,_,_,_,_,safe⟩ := guarded _ _ _ _ escaping_escapes rfl statement issued
    obtain ⟨text,placed,safe⟩ := safe condition member
    exact (safe_escaped escaping_escapes unquoted placed).mp safe
  · intro words environment tables connections request escapes same
    exact query2_guarded escapes words same
  · intro guarded
    by_cases rejected : ∃ condition ∈ conditions, condition.isString = false ∧
      isNumericString condition.right = false
    · exact Or.inl rejected
    · refine Or.inr ?_
      intro condition member unquoted
      obtain ⟨clause,built⟩ : ∃ clause, whereClause escaping true conditions = .ok clause := by
        apply clause_built
        intro _ other there quoted
        apply Bool.of_not_eq_false
        exact fun isNumeric => rejected ⟨other,there,quoted,isNumeric⟩
      obtain ⟨_,_,_,_,_,safe⟩ := guarded _ _ _ _ _ _ escaping_escapes _ (update2_issued built)
      obtain ⟨text,placed,safe⟩ := safe condition member
      exact (safe_numeric unquoted placed).mp safe
  · intro checked environment tables connections index tablename tokens escapes
    exact update2_guarded escapes checked

theorem operands_change_statements :
    ((query2 escaping sampleTables (fun _ => false)
      ⟨0,"t",["a"],[⟨"=","a","1) OR (1=1",false⟩],"","",10,-1⟩).2.1 =
        [.mysql 0 "SELECT a FROM t WHERE (a = 1) OR (1=1) LIMIT 10"] ∧
      ¬Guarded escaping false [⟨"=","a","1) OR (1=1",false⟩]
        [.mysql 0 "SELECT a FROM t WHERE (a = 1) OR (1=1) LIMIT 10"]) ∧
    (update2 escaping sampleTables (fun _ => false) 0 "t" [("a","1")] [⟨"=","a","",false⟩]).2.1 =
        [.log 0 "UPDATE t SET a=\"1\" WHERE (a = )"] ∧
      ¬Guarded escaping true [⟨"=","a","",false⟩] [.log 0 "UPDATE t SET a=\"1\" WHERE (a = )"] := by
  refine ⟨⟨by decide +kernel,?_⟩,by decide +kernel,?_⟩
  · intro guarded
    obtain ⟨_,_,_,_,_,safe⟩ := guarded _ mem_cons_self
    obtain ⟨text,placed,safe⟩ := safe _ mem_cons_self
    have word := (safe_escaped escaping_escapes rfl placed).mp safe
    exact absurd (word.2 ')' (by decide)) (by decide)
  · intro guarded
    obtain ⟨_,_,_,_,_,safe⟩ := guarded _ mem_cons_self
    obtain ⟨text,placed,safe⟩ := safe _ mem_cons_self
    exact ((safe_numeric rfl placed).mp safe).1 rfl

end Mooon.DbProxy.Handler.Conditions

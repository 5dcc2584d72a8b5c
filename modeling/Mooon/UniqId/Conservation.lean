import Mooon.Run
import Mooon.UniqId.Master

/-! Two masters over one database. The reads of a transaction come from the snapshot of
its first read, its writes go to the committed tables. A connection that the client makes
anew has the server's default, autocommit, for good. Each transaction moves a label as a
whole between the pool and the online table; only `generate_labels` puts labels into a
pool that is empty because all of them are rented. -/
namespace Mooon.UniqId.Master
open List Function Run Bool

inductive Phase where
  | idle
  | generating
  | allocating (label : UInt8) (ip : UInt32)
  | recycling (labels : List UInt8)

/-- The open transaction: its snapshot, and the renewals whose COMMIT has failed. -/
structure Session where
  phase : Phase
  snapshot : Option Tables
  updates : List LabelInfo
  autocommit : Bool

def Session.opened : Session := ⟨.idle,none,[],false⟩

def Session.closed (session : Session) (phase : Phase) : Session :=
  {session with phase := phase, snapshot := none, updates := []}

structure Database where
  tables : Tables
  sessions : Bool → Session
  generated : Bool

def Tables.empty : Tables := ⟨.empty,.empty⟩

section
variable (zone : Int → Int)

def Tables.renewed (infos : List LabelInfo) (tables : Tables) : Tables :=
  {tables with online := renewRows zone executed infos 0 tables.online}

def Session.view (session : Session) (tables : Tables) : Tables :=
  (session.snapshot.getD tables).renewed zone session.updates

def Session.read (session : Session) (phase : Phase) (tables : Tables) : Session :=
  {session with
    phase := phase
    snapshot := if session.autocommit then none else some (session.snapshot.getD tables)}

inductive Action where
  | start
  /-- The connection is lost; the next statement that does not fail finds a new one. -/
  | lost
  | insert (ok : Outcome)
  | allocSelect (choice : UInt8) (ip : UInt32)
  | allocMove (now : TimeT) (ok : Outcome)
  | renew (infos : List LabelInfo) (ok : Outcome)
  | recycleSelect (expire : UInt32) (now : TimeT)
  | recycleNext (ok : Outcome)

-- with autocommit the statements before one that fails stay

def insertEach (ok : Outcome) : List UInt8 → Nat → Table (id : UInt8 → UInt8) → Table (id : UInt8 → UInt8)
  | [], _, pool => pool
  | label::rest, statement, pool =>
    match pool.insert label,ok statement with
    | some pool,true => insertEach ok rest (statement+1) pool
    | _,_ => pool

def allocEach (label : UInt8) (ip : UInt32) (time : Int) (ok : Outcome) (tables : Tables) : Tables :=
  if ok 0 && tables.pool.has label then
    match tables.online.insert ⟨label,ip,time⟩,ok 1 with
    | some online,true => ⟨tables.pool.delete label,online⟩
    | _,_ => {tables with pool := tables.pool.delete label}
  else tables

def recycleEach (label : UInt8) (ok : Outcome) (tables : Tables) : Tables × Bool :=
  match tables.pool.insert label,ok 1 with
  | some pool,true => (⟨pool,tables.online.delete label⟩,ok 2 && ok 3)
  | _,_ => ({tables with online := tables.online.delete label},false)

/-- The committed tables and the session after one step of a master, and whether labels
were generated. A crash is followed by `start`. -/
def transact (tables : Tables) (session : Session) : Action → Tables × Session × Bool
  | .start =>
    (tables,Session.opened.read (if tables.pool.rows = [] then .generating else .idle) tables,false)
  | .lost => (tables,{session.closed session.phase with autocommit := true},false)
  | .insert ok =>
    match session.phase with
    | .generating =>
      let (inserted,generated) := generateInsert ok tables
      (if session.autocommit then {tables with pool := insertEach ok labels 0 tables.pool} else inserted,
        session.closed .idle,generated)
    | _ => (tables,session,false)
  | .allocSelect choice ip =>
    match selectLabel choice (session.view zone tables).pool with
    | some label => (tables,session.read (.allocating label ip) tables,false)
    | none => (tables,session.read .idle tables,false)
  | .allocMove now ok =>
    match session.phase with
    | .allocating label ip =>
      if session.autocommit then (allocEach label ip (zone now.toInt) ok tables,session.closed .idle,false)
      else
        match Master.allocMove label ip (zone now.toInt) ok (tables.renewed zone session.updates) with
        | (tables,some _) => (tables,session.closed .idle,false)
        | (_,none) =>
          -- a DELETE that fails or finds nothing is not rolled back
          if ok 0 && tables.pool.has label then (tables,session.closed .idle,false)
          else (tables,{session with phase := .idle},false)
    | _ => (tables,session,false)
  | .renew infos ok =>
    let done := infos.zipIdx.filterMap fun (info,statement) => if ok statement then some info else none
    if done = [] then (tables,session,false)
    else if session.autocommit || ok infos.length then
      (tables.renewed zone (session.updates ++ done),session.closed session.phase,false)
    else (tables,{session with updates := session.updates ++ done},false)
  | .recycleSelect expire now =>
    (tables,session.read (.recycling
      (expiredLabels zone expire now (session.view zone tables).online)) tables,false)
  | .recycleNext ok =>
    match session.phase with
    | .recycling (label::rest) =>
      if !ok 0 then (tables,{session with phase := .idle},false)
      else if !tables.online.has label then (tables,{session with phase := .recycling rest},false)
      else
        match if session.autocommit then recycleEach label ok tables
          else recycleRow label ok (tables.renewed zone session.updates) with
        | (recycled,true) => (recycled,session.closed (.recycling rest),false)
        | (recycled,false) => (if session.autocommit then recycled else tables,session.closed .idle,false)
    | _ => (tables,session,false)

def act (database : Database) (action : Bool × Action) : Database × Unit :=
  let (tables,session,generated) := transact zone database.tables (database.sessions action.1) action.2
  (⟨tables,Function.update database.sessions action.1 session,database.generated || generated⟩,())

end

def Database.empty : Database := ⟨.empty,fun _ => .opened,false⟩

/-- Every label is in exactly one of the two tables, and nothing else is in them. -/
structure Conserved (tables : Tables) : Prop where
  once : ∀ label, ValidLabel label.toNat → (tables.pool.has label = true ↔ ¬ tables.online.has label = true)
  valid : ∀ label, tables.pool.has label = true ∨ tables.online.has label = true → ValidLabel label.toNat

def Action.Moves : Action → Prop
  | .insert _ | .allocMove _ _ | .recycleNext _ => True
  | _ => False

/-- Labels are moved in transactions, not statement by statement on a connection that was made anew,
and are not generated into a pool that is empty because they are rented. -/
def Orderly (database : Database) (action : Bool × Action) : Prop :=
  (action.2.Moves → (database.sessions action.1).autocommit = false) ∧
    match action.2,(database.sessions action.1).phase with
    | .insert _,.generating => database.tables.pool.rows ≠ [] ∨ database.tables.online.rows = []
    | _,_ => True

inductive Committed (zone : Int → Int) (tables : Tables) (session : Session) (action : Action) :
    Tables → Bool → Prop
  | nothing : Committed zone tables session action tables false
  | alone (next : Tables) (generated : Bool) (moves : action.Moves) (autocommit : session.autocommit = true) :
    Committed zone tables session action next generated
  | renewed (infos : List LabelInfo) : Committed zone tables session action (tables.renewed zone infos) false
  | moved (infos : List LabelInfo) (row : Online) (online : Table Online.label)
    (there : tables.pool.has row.label = true)
      (inserted : (tables.renewed zone infos).online.insert row = some online) :
    Committed zone tables session action ⟨tables.pool.delete row.label,online⟩ false
  | recycled (infos : List LabelInfo) (label : UInt8) (pool : Table (id : UInt8 → UInt8))
    (there : tables.online.has label = true) (inserted : tables.pool.insert label = some pool) :
    Committed zone tables session action ⟨pool,(tables.renewed zone infos).online.delete label⟩ false
  | generated (ok : Outcome) (pool : Table (id : UInt8 → UInt8)) (inserting : action = .insert ok)
    (started : session.phase = .generating) (inserted : insertLabels ok labels 0 tables.pool = some pool) :
    Committed zone tables session action {tables with pool := pool} true

variable {zone : Int → Int} {infos : List LabelInfo} {stmt : Nat} {online : Table Online.label}

theorem renewRows_has {label : UInt8} :
    (renewRows zone executed infos stmt online).has label = online.has label := by
  induction infos generalizing stmt online with
  | nil => rfl
  | cons info rest ih =>
    unfold renewRows
    rw [ih]
    exact Table.has_update (renewRow zone info) (renewRow_label zone info) label online

@[simp] theorem renewed_has {tables : Tables} {label : UInt8} :
    (tables.renewed zone infos).online.has label = tables.online.has label := renewRows_has

variable {tables : Tables} {next : Tables} {session : Session} {action : Action} {ok : Outcome}

theorem recycleRow_committed {label : UInt8} (there : tables.online.has label = true)
    (recycled : recycleRow label ok (tables.renewed zone infos) = (next,true)) :
    Committed zone tables session action next false := by
  rcases recycleRow_cases label ok (tables.renewed zone infos) with kept | ⟨pool,_,added,moved⟩
  · rw [recycled] at kept
    rw [show next = _ from kept]
    exact .renewed infos
  · rw [recycled] at moved
    rw [show next = _ from moved]
    exact .recycled infos label pool there added

theorem transact_committed (zone : Int → Int) (tables : Tables) (session : Session) (action : Action) :
    Committed zone tables session action (transact zone tables session action).1
      (transact zone tables session action).2.2 := by
  by_cases alone : action.Moves ∧ session.autocommit = true
  · exact .alone _ _ alone.1 alone.2
  cases action with
  | start | lost => exact .nothing
  | insert ok =>
    have off : session.autocommit = false := by simpa [Action.Moves] using alone
    cases phase : session.phase with
    | generating =>
      simp only [transact,phase,generateInsert,off,false_eq_true,if_false]
      cases added : insertLabels ok labels 0 tables.pool with
      | none => exact .nothing
      | some pool => exact .generated ok pool rfl phase added
    | idle | allocating label ip | recycling rest =>
      simp only [transact,phase]
      exact .nothing
  | allocSelect choice ip =>
    unfold transact
    dsimp only
    split <;> exact .nothing
  | allocMove now ok =>
    have off : session.autocommit = false := by simpa [Action.Moves] using alone
    unfold transact
    dsimp only
    split
    · rename_i label ip phase
      simp only [off,false_eq_true,if_false]
      rcases allocMove_cases label ip (zone now.toInt) ok (tables.renewed zone session.updates) with
        kept | ⟨online,there,added,moved⟩
      · rw [kept]
        dsimp only
        split <;> exact .nothing
      · rw [moved]
        exact .moved session.updates ⟨label,ip,zone now.toInt⟩ online there added
    · exact .nothing
  | renew infos ok =>
    unfold transact
    dsimp only
    split_ifs
    · exact .nothing
    · exact .renewed _
    · exact .nothing
  | recycleSelect expire now => exact .nothing
  | recycleNext ok =>
    have off : session.autocommit = false := by simpa [Action.Moves] using alone
    unfold transact
    dsimp only
    split
    · rename_i label rest phase
      simp only [off,false_eq_true,if_false]
      split_ifs
      · exact .nothing
      · exact .nothing
      · rename_i there
        cases recycled : recycleRow label ok (tables.renewed zone session.updates) with
        | mk next going =>
          cases going with
          | false => exact .nothing
          | true => exact recycleRow_committed (by simpa using there) recycled
    · exact .nothing

variable (label : UInt8)

theorem mem_labels : label ∈ labels ↔ ValidLabel label.toNat := by
  unfold labels ValidLabel
  rw [mem_map]
  constructor
  · rintro ⟨number,mem,rfl⟩
    obtain ⟨low,high⟩ := mem_range'_1.mp mem
    unfold labelMax at high ⊢
    rw [UInt8.toNat_ofNat']
    omega
  · rintro ⟨low,high⟩
    refine ⟨label.toNat,mem_range'_1.mpr ⟨low,?_⟩,UInt8.ofNat_toNat⟩
    omega

theorem insertLabels_some (ok : Outcome) (inserts : List UInt8) (stmt : Nat)
    (pool next : Table (id : UInt8 → UInt8)) (added : insertLabels ok inserts stmt pool = some next) :
    (∀ label ∈ inserts, ¬ pool.has label = true) ∧
    ∀ label, next.has label = true ↔ label ∈ inserts ∨ pool.has label = true := by
  induction inserts generalizing stmt pool with
  | nil =>
    unfold insertLabels at added
    split at added
    · cases added
      exact ⟨by simp,by simp⟩
    · cases added
  | cons first rest ih =>
    unfold insertLabels at added
    split at added
    · obtain ⟨middle,done,later⟩ := Option.bind_eq_some_iff.mp added
      obtain ⟨absent,present⟩ := ih (stmt+1) middle later
      have fresh : ¬ pool.has first = true := by
        intro taken
        rw [Table.insert_eq_none.mpr taken] at done
        cases done
      have middleHas : ∀ label, middle.has label = true ↔ label = first ∨ pool.has label = true :=
        fun label => Table.has_insert done
      refine ⟨?_,?_⟩
      · intro label listed
        rcases mem_cons.mp listed with rfl | listed
        · exact fresh
        · intro taken
          exact absent label listed ((middleHas label).mpr (.inr taken))
      · intro label
        rw [present,middleHas,mem_cons]
        tauto
    · cases added

def Vacant (tables : Tables) : Prop :=
  ∀ label, ¬ tables.pool.has label = true ∧ ¬ tables.online.has label = true

theorem conserved_moved (kept : Conserved tables) {row : Online} (there : tables.pool.has row.label = true)
    (added : (tables.renewed zone infos).online.insert row = some online) :
    Conserved ⟨tables.pool.delete row.label,online⟩ := by
  have has : ∀ label, online.has label = true ↔ label = row.label ∨ tables.online.has label = true := by
    intro label
    rw [Table.has_insert added,renewed_has]
  refine ⟨?_,?_⟩
  · intro label valid
    have once := kept.once label valid
    rw [has,Table.has_delete]
    tauto
  · intro label somewhere
    rw [has,Table.has_delete] at somewhere
    rcases somewhere with ⟨_,pooled⟩ | rfl | rented
    · exact kept.valid label (.inl pooled)
    · exact kept.valid _ (.inl there)
    · exact kept.valid label (.inr rented)

variable {pool : Table (id : UInt8 → UInt8)}

theorem conserved_recycled (kept : Conserved tables) {label : UInt8} (there : tables.online.has label = true)
    (added : tables.pool.insert label = some pool) :
    Conserved ⟨pool,(tables.renewed zone infos).online.delete label⟩ := by
  have has : ∀ other, pool.has other = true ↔ other = label ∨ tables.pool.has other = true :=
    fun other => Table.has_insert added
  refine ⟨?_,?_⟩
  · intro other valid
    have once := kept.once other valid
    rw [has,Table.has_delete,renewed_has]
    tauto
  · intro other somewhere
    rw [has,Table.has_delete,renewed_has] at somewhere
    rcases somewhere with (rfl | pooled) | ⟨_,rented⟩
    · exact kept.valid _ (.inr there)
    · exact kept.valid other (.inl pooled)
    · exact kept.valid other (.inr rented)

theorem conserved_generated (vacant : Vacant tables)
    (added : insertLabels ok labels 0 tables.pool = some pool) : Conserved {tables with pool := pool} := by
  obtain ⟨_,has⟩ := insertLabels_some ok labels 0 tables.pool pool added
  refine ⟨?_,?_⟩
  · intro label valid
    rw [has]
    exact ⟨fun _ => (vacant label).2,fun _ => .inl ((mem_labels label).mpr valid)⟩
  · rintro label (pooled | rented)
    · rcases (has label).mp pooled with listed | before
      · exact (mem_labels label).mp listed
      · exact absurd before (vacant label).1
    · exact absurd rented (vacant label).2

theorem has_of_rows (filled : tables.pool.rows ≠ [] ∨ tables.online.rows = [])
    (kept : Conserved tables) : ∃ label, ValidLabel label.toNat ∧ tables.pool.has label = true := by
  rcases filled with filled | empty
  · obtain ⟨label,mem⟩ := exists_mem_of_ne_nil _ filled
    have has := Table.has_iff.mpr ⟨label,mem,rfl⟩
    exact ⟨label,kept.valid label (.inl has),has⟩
  · refine ⟨1,by decide,(kept.once 1 (by decide)).mpr ?_⟩
    simp [Table.has,empty]

/-- Before the first `generate_labels` the tables are empty, and from then on every label
is in exactly one of them. -/
def Kept : Bool → Tables → Prop
  | true, tables => Conserved tables
  | false, tables => Vacant tables

variable {generated : Bool}

section
variable (transaction : action.Moves → session.autocommit = false)
  (committed : Committed zone tables session action next generated)
include transaction committed

theorem vacant_committed (vacant : Vacant tables) : Kept generated next := by
  cases committed with
  | nothing => exact vacant
  | alone _ _ moves autocommit => exact absurd autocommit (eq_false_iff.mp (transaction moves))
  | renewed infos =>
    intro label
    rw [renewed_has]
    exact vacant label
  | moved infos row online there added => exact absurd there (vacant row.label).1
  | recycled infos label pool there added => exact absurd there (vacant label).2
  | generated ok pool inserting started added => exact conserved_generated vacant added

theorem conserved_committed (kept : Conserved tables)
    (filled : ∀ ok, action = .insert ok → session.phase = .generating →
      tables.pool.rows ≠ [] ∨ tables.online.rows = []) : Conserved next := by
  cases committed with
  | nothing => exact kept
  | alone _ _ moves autocommit => exact absurd autocommit (eq_false_iff.mp (transaction moves))
  | renewed infos =>
    refine ⟨fun label valid => ?_,fun label somewhere => ?_⟩
    · rw [renewed_has]
      exact kept.once label valid
    · rw [renewed_has] at somewhere
      exact kept.valid label somewhere
  | moved infos row online there added => exact conserved_moved kept there added
  | recycled infos label pool there added => exact conserved_recycled kept there added
  | generated ok pool inserting started added =>
    obtain ⟨label,valid,taken⟩ := has_of_rows (filled ok inserting started) kept
    obtain ⟨absent,_⟩ := insertLabels_some ok labels 0 tables.pool pool added
    exact absurd taken (absent label ((mem_labels label).mpr valid))

end

variable (zone) (database : Database)

theorem act_kept (action : Bool × Action) (kept : Kept database.generated database.tables)
    (orderly : Orderly database action) :
    Kept (act zone database action).1.generated (act zone database action).1.tables := by
  have committed := transact_committed zone database.tables (database.sessions action.1) action.2
  change Kept (database.generated ||
    (transact zone database.tables (database.sessions action.1) action.2).2.2)
    (transact zone database.tables (database.sessions action.1) action.2).1
  cases generated : database.generated with
  | false =>
    rw [generated] at kept
    exact vacant_committed orderly.1 committed kept
  | true =>
    rw [generated] at kept
    refine conserved_committed orderly.1 committed kept ?_
    intro ok inserting started
    have filled := orderly.2
    rw [inserting,started] at filled
    exact filled

/-- From empty tables, whatever the two masters do and whichever statements fail, every
label is in exactly one table once labels have been generated, as long as they are moved
in transactions and not generated again into a pool that is empty because all of them
are rented. -/
theorem labels_conserved (zone : Int → Int) (actions : List (Bool × Action))
    (orderly : Run.Meets Orderly (act zone) Database.empty actions) :
    (final (act zone) Database.empty actions).generated = true →
      Conserved (final (act zone) Database.empty actions).tables := by
  have start : Kept false Tables.empty := by
    intro label
    exact ⟨false_ne_true,false_ne_true⟩
  have kept := invariant (fun database => Kept database.generated database.tables) (act_kept zone)
    Database.empty
    actions start orderly
  intro generated
  rw [generated] at kept
  exact kept

theorem insertLabels_executed (inserts : List UInt8) (stmt : Nat) (pool : Table (id : UInt8 → UInt8))
    (nodup : inserts.Nodup) (absent : ∀ label ∈ inserts, ¬ pool.has label = true) :
    ∃ next, insertLabels executed inserts stmt pool = some next := by
  induction inserts generalizing stmt pool with
  | nil => exact ⟨pool,rfl⟩
  | cons first rest ih =>
    obtain ⟨new,nodup⟩ := nodup_cons.mp nodup
    cases inserted : pool.insert first with
    | none => exact absurd (Table.insert_eq_none.mp inserted) (absent first mem_cons_self)
    | some middle =>
      obtain ⟨next,done⟩ := ih (stmt+1) middle nodup (by
        intro label listed taken
        rcases (Table.has_insert inserted).mp taken with same | before
        · have same : label = first := same
          exact new (same ▸ listed)
        · exact absent label (mem_cons_of_mem first listed) before)
      refine ⟨next,?_⟩
      unfold insertLabels
      rw [inserted]
      exact done

theorem labels_nodup : labels.Nodup := by
  refine List.Nodup.map_on ?_ nodup_range'
  intro first here second there same
  have same := congrArg UInt8.toNat same
  rw [UInt8.toNat_ofNat',UInt8.toNat_ofNat'] at same
  have low := mem_range'_1.mp here
  have high := mem_range'_1.mp there
  unfold labelMax at low high
  omega

theorem generates (master : Bool) (empty : ∀ label, ¬ database.tables.pool.has label = true) :
    ∃ pool, final (act zone) database [(master,.start),(master,.insert executed)] =
        ⟨{database.tables with pool := pool},update database.sessions master .opened,true⟩ ∧
      ∀ label, pool.has label = true ↔ label ∈ labels := by
  have rows : database.tables.pool.rows = [] := by
    apply eq_nil_iff_forall_not_mem.mpr
    intro label mem
    exact empty label (Table.has_iff.mpr ⟨label,mem,rfl⟩)
  obtain ⟨pool,inserted⟩ :=
    insertLabels_executed labels 0 database.tables.pool labels_nodup (fun label _ => empty label)
  obtain ⟨_,has⟩ := insertLabels_some executed labels 0 database.tables.pool pool inserted
  refine ⟨pool,?_,?_⟩
  · simp [act,transact,Session.read,Session.opened,Session.closed,rows,generateInsert,inserted]
  · intro label
    rw [has]
    exact ⟨fun listed => listed.resolve_right (empty label),.inl⟩

theorem orderly_other {master : Bool} (other : ¬ action.Moves) : Orderly database (master,action) := by
  refine ⟨fun moves => absurd moves other,?_⟩
  split
  · rename_i inserting _
    cases inserting
    exact absurd trivial other
  · trivial

theorem generated_stays {acts : List (Bool × Action)} (generated : database.generated = true) :
    (final (act zone) database acts).generated = true := by
  refine always (fun database => database.generated = true) database acts ?_ generated
  intro database action _ generated
  change (database.generated ||
    (transact zone database.tables (database.sessions action.1) action.2).2.2) = true
  rw [generated,Bool.true_or]

def sampleMoves : List (Bool × Action) :=
  [(true,.start),(true,.allocSelect 5 1),(true,.allocMove 1000 executed),(false,.recycleSelect 100 2000),
    (false,.recycleNext executed)]

def sampleRenting : List (Bool × Action) := [(false,.start),(false,.insert executed)] ++ sampleMoves

theorem labels_conserved_recycled : (final (act id) Database.empty sampleRenting).generated = true ∧
    Conserved (final (act id) Database.empty sampleRenting).tables := by
  obtain ⟨pool,first,_⟩ := generates id Database.empty false (fun _ => false_ne_true)
  have generated : (final (act id) Database.empty sampleRenting).generated = true := by
    unfold sampleRenting
    rw [final_append,first]
    exact generated_stays id _ rfl
  have orderly : Run.Meets Orderly (act id) Database.empty sampleRenting := by
    have moves : Run.Meets Orderly (act id)
      (final (act id) Database.empty [(false,.start),(false,.insert executed)])
        sampleMoves := by
      rw [first]
      refine ⟨orderly_other _ not_false,orderly_other _ not_false,⟨fun _ => ?_,trivial⟩,
        orderly_other _ not_false,
        ⟨fun _ => rfl,trivial⟩,trivial⟩
      simp only [act,transact,update_self]
      split <;> split <;> rfl
    exact ⟨orderly_other _ not_false,⟨fun _ => rfl,.inr rfl⟩,moves⟩
  exact ⟨generated,labels_conserved id sampleRenting orderly generated⟩

theorem selectLabel_choice {label : UInt8} (there : pool.has label = true)
    (valid : ValidLabel label.toNat) : selectLabel label pool = some label := by
  obtain ⟨row,mem,same⟩ := Table.has_iff.mp there
  have same : row = label := same
  subst same
  unfold selectLabel
  rw [if_pos (mem_filter.mpr ⟨mem,by simpa using valid⟩)]

-- the connection is made anew, and of the two statements that move a label the second fails
def sampleReconnect : List (Bool × Action) :=
  [(false,.start),(false,.insert executed)] ++
    [(false,.lost),(false,.allocSelect 1 1),(false,.allocMove 1000 (· = 0))]

theorem label_lost : (final (act id) Database.empty sampleReconnect).generated = true ∧
    ¬ Conserved (final (act id) Database.empty sampleReconnect).tables := by
  obtain ⟨pool,first,pooled⟩ := generates id Database.empty false (fun _ => false_ne_true)
  have there : pool.has 1 = true := (pooled 1).mpr ((mem_labels 1).mpr (by decide))
  have selected := selectLabel_choice there (by decide)
  rw [sampleReconnect,final_append,first]
  refine ⟨generated_stays id _ rfl,fun conserved => ?_⟩
  have once := conserved.once 1 (by decide)
  simp [act,transact,Session.view,Session.opened,Session.closed,Session.read,Tables.renewed,renewRows,
    selected,allocEach,there] at once
  have gone : (pool.delete 1).has 1 = false := Bool.eq_false_iff.mpr fun has =>
    (Table.has_delete.mp has).1 rfl
  rw [gone] at once
  exact absurd once (by decide)

end Mooon.UniqId.Master

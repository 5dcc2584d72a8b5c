import Mathlib.Data.Int.Range
import Mooon.Table
import Mooon.UniqId.Protocol

/-! The master of the unique-id service, `CUniqMaster`: the tables of its database, the renewals it
keeps in memory until the next `on_timeout`, and its answers. The tables have DATETIME columns;
`zone` is the local time, in seconds, that `to_datetime` writes for a time, and falls back where
clocks are set back. An outcome says which statements of a transaction are executed; a statement
that fails throws, and the transaction is rolled back. The log table, which nothing reads, is left
out, but its insert may fail like any other. Datagrams whose size is not the one in their header are
dropped before `receive`. -/
namespace Mooon.UniqId.Master
open List Int

structure Online where
  label : UInt8
  ip : UInt32
  time : Int
deriving DecidableEq, Repr

/-- `t_label_pool` and `t_label_online`; the label is the primary key of both. -/
structure Tables where
  pool : Table (id : UInt8 → UInt8)
  online : Table Online.label

structure LabelInfo where
  label : UInt8
  ip : UInt32
  leaseTime : TimeT
deriving DecidableEq, Repr

structure State where
  infos : Table LabelInfo.label
  tables : Tables

abbrev Outcome := Nat → Bool

def executed : Outcome := fun _ => true

def labels : List UInt8 := (List.range' 1 labelMax).map UInt8.ofNat

def insertLabels (ok : Outcome) : List UInt8 → Nat → Table (id : UInt8 → UInt8) →
    Option (Table (id : UInt8 → UInt8))
  | [], commit, pool => if ok commit then some pool else none
  | label::rest, statement, pool =>
    if ok statement then (pool.insert label).bind (insertLabels ok rest (statement+1)) else none

def generateInsert (ok : Outcome) (tables : Tables) : Tables × Bool :=
  match insertLabels ok labels 0 tables.pool with
  | some pool => ({tables with pool := pool},true)
  | none => (tables,false)

def selectLabel (choice : UInt8) (pool : Table (id : UInt8 → UInt8)) : Option UInt8 :=
  let available := pool.rows.filter fun label => ValidLabel label.toNat
  if choice ∈ available then some choice else available.head?

-- DELETE from the pool, INSERT into the online table, INSERT into the log, COMMIT
def allocMove (label : UInt8) (ip : UInt32) (time : Int) (ok : Outcome)
    (tables : Tables) : Tables × Option UInt8 :=
  if !(ok 0 && tables.pool.has label) then (tables,none)
  else
    match tables.online.insert ⟨label,ip,time⟩ with
    | none => (tables,none)
    | some online =>
      if ok 1 && ok 2 && ok 3 then (⟨tables.pool.delete label,online⟩,some label) else (tables,none)

variable (zone : Int → Int)

def renewRow (info : LabelInfo) (row : Online) : Online :=
  if row.label = info.label ∧ row.ip = info.ip ∧ row.time < zone info.leaseTime.toInt then
    {row with time := zone info.leaseTime.toInt}
  else row

variable (info : LabelInfo) (row : Online)

theorem renewRow_label : (renewRow zone info row).label = row.label := by
  unfold renewRow
  split <;> rfl

-- an UPDATE that fails is logged and skipped
def renewRows (ok : Outcome) : List LabelInfo → Nat → Table Online.label → Table Online.label
  | [], _, online => online
  | info::rest, statement, online =>
    renewRows ok rest (statement+1)
      (if ok statement then online.update (renewRow zone info) (renewRow_label zone info) else online)

-- the renewals of a COMMIT that fails stay in memory for the next run
def renew (ok : Outcome) (master : State) : State :=
  let infos := master.infos.rows
  if (List.range infos.length).any ok && ok infos.length then
    ⟨.empty,{master.tables with online := renewRows zone ok infos 0 master.tables.online}⟩
  else master

-- DELETE from the online table, INSERT into the pool, INSERT into the log, COMMIT; a
-- DELETE of no row goes on with the next label, a failure ends the loop
def recycleRow (label : UInt8) (ok : Outcome) (tables : Tables) : Tables × Bool :=
  if !ok 0 then (tables,false)
  else if !tables.online.has label then (tables,true)
  else
    match tables.pool.insert label with
    | none => (tables,false)
    | some pool =>
      if ok 1 && ok 2 && ok 3 then (⟨pool,tables.online.delete label⟩,true) else (tables,false)

def recycleRows (ok : UInt8 → Outcome) : List UInt8 → Tables → Tables
  | [], tables => tables
  | label::rest, tables =>
    match recycleRow label (ok label) tables with
    | (tables,true) => recycleRows ok rest tables
    | (tables,false) => tables

section
variable (expire : UInt32) (now : TimeT) (ip : UInt32)

def freeze : UInt32 :=
  if expire < 3600 then expire
  else if expire < 3600*24 then 3600*2
  else if expire < 3600*24*7 then 3600*24*2
  else if expire < 3600*24*30 then 3600*24*3
  else if expire < 3600*24*90 then 3600*24*5
  else 3600*24*10

def getExpireTime : Int :=
  if expire < 3600 then now.toInt - (2*expire).toNat
  else if expire < 3600*24 then now.toInt - (3600*2+expire).toNat
  else if expire < 3600*24*7 then now.toInt - (3600*24*2+expire).toNat
  else if expire < 3600*24*30 then now.toInt - (3600*24*3+expire).toNat
  else if expire < 3600*24*90 then now.toInt - (3600*24*5+expire).toNat
  else now.toInt - (3600*24*10+expire).toNat

def expiredLabels (online : Table Online.label) : List UInt8 :=
  (online.rows.filter fun row => row.time < zone (getExpireTime expire now)).map Online.label

def onTimeout (renewed : Outcome) (recycled : UInt8 → Outcome) (master : State) : State :=
  let master := renew zone renewed master
  {master with
    tables := recycleRows recycled (expiredLabels zone expire now master.tables.online) master.tables}

def ValidAt (row : Online) : Prop := zone (now.toInt - expire.toNat) ≤ row.time
deriving Decidable

def holdValidLabel (label : UInt8) (online : Table Online.label) : Bool :=
  match online.find label with
  | some row => ValidAt zone expire now row && row.ip == ip
  | none => false

/-- The label that this address holds, `some 0` if it holds none; `none` is the exception
of a query that returns more than one row. -/
def getLabel (online : Table Online.label) : Option UInt8 :=
  match online.rows.filter fun row => row.ip = ip ∧ ValidAt zone expire now row with
  | [] => some 0
  | [row] => some row.label
  | _ => none

def allocLabel (choice : UInt8) (ip : UInt32) (now : TimeT) (ok : Outcome) (tables : Tables) :
    Tables × Except UInt32 UInt8 :=
  match selectLabel choice tables.pool with
  | none => (tables,.error errorNoLabel)
  | some label =>
    match allocMove label ip (zone now.toInt) ok tables with
    | (tables,some label) => (tables,.ok label)
    | (tables,none) => (tables,.error errorDatabase)

def rent (label : UInt32) (choice : UInt8) (ok : Outcome)
    (tables : Tables) : Tables × Except UInt32 UInt8 :=
  if labelMax < label.toNat then (tables,.error errorInvalidLabel)
  else if 0 < label then
    if holdValidLabel zone expire now ip label.toUInt8 tables.online then (tables,.ok label.toUInt8)
    else (tables,.error errorLabelNotHold)
  else
    match getLabel zone expire now ip tables.online with
    | none => (tables,.error errorDatabase)
    | some label => if label = 0 then allocLabel zone choice ip now ok tables else (tables,.ok label)

-- `std::map::insert` keeps the entry that is there; only its time is then set
def remember (info : LabelInfo) (infos : Table LabelInfo.label) : Table LabelInfo.label :=
  match infos.insert info with
  | some infos => infos
  | none =>
    infos.update (fun old => if old.label = info.label then {old with leaseTime := info.leaseTime} else old)
      (by intro old; split <;> rfl)

def prepareResponseGetLabel (request : MessageHead) (choice : UInt8)
    (ok : Outcome) (master : State) : State × Except UInt32 MessageHead :=
  match rent zone expire now ip request.value1 choice ok master.tables with
  | (tables,.ok label) =>
    (⟨remember ⟨label,ip,now⟩ master.infos,tables⟩,.ok (response responseLabel request label.toUInt32 0 0))
  | (tables,.error errcode) => ({master with tables := tables},.error errcode)

def receive (message : MessageHead) (choice : UInt8) (ok : Outcome)
    (master : State) : State × Option MessageHead :=
  if message.calcMagic ≠ message.magic then (master,none)
  else if message.type = requestLabel then
    match prepareResponseGetLabel zone expire now ip message choice ok master with
    | (master,.ok response) => (master,some response)
    | (master,.error errcode) => (master,some (prepareResponseError message errcode))
  else (master,some (prepareResponseError message errorInvalidType))

end

theorem getExpireTime_eq (expire : UInt32) (now : TimeT)
    (fits : expire.toNat + (freeze expire).toNat < 2^32) :
    getExpireTime expire now = now.toInt - (expire.toNat + (freeze expire).toNat : Nat) := by
  have sum : ∀ extra : UInt32, expire.toNat + extra.toNat < 2^32 →
      (extra+expire).toNat = expire.toNat + extra.toNat := by
    intro extra small
    rw [UInt32.toNat_add]
    omega
  unfold freeze at fits ⊢
  unfold getExpireTime
  split_ifs at fits ⊢ with hour day week month season
  · rw [UInt32.toNat_mul]
    have two : (2 : UInt32).toNat = 2 := rfl
    rw [two]
    omega
  all_goals rw [sum _ fits]

theorem allocMove_cases (label : UInt8) (ip : UInt32) (time : Int) (ok : Outcome) (tables : Tables) :
    allocMove label ip time ok tables = (tables,none) ∨
    ∃ online, tables.pool.has label = true ∧ tables.online.insert ⟨label,ip,time⟩ = some online ∧
      allocMove label ip time ok tables = (⟨tables.pool.delete label,online⟩,some label) := by
  unfold allocMove
  split
  · exact .inl rfl
  · rename_i taken
    split
    · exact .inl rfl
    · rename_i online added
      split
      · exact .inr ⟨online,by simp_all,added,rfl⟩
      · exact .inl rfl

variable {zone} {expire : UInt32} {label : UInt8} {online : Table Online.label} {now : TimeT} {ip : UInt32}

theorem holdValidLabel_row
    (holds : holdValidLabel zone expire now ip label online = true) :
    ∃ row ∈ online, row.label = label ∧ row.ip = ip := by
  unfold holdValidLabel at holds
  split at holds
  · rename_i row found
    obtain ⟨mem,key⟩ := Table.find_some found
    simp only [Bool.and_eq_true,beq_iff_eq] at holds
    exact ⟨row,mem,key,holds.2⟩
  · cases holds

theorem getLabel_row
    (found : getLabel zone expire now ip online = some label) (nonzero : label ≠ 0) :
    ∃ row ∈ online, row.label = label ∧ row.ip = ip := by
  unfold getLabel at found
  split at found
  · exact absurd (Option.some.inj found).symm nonzero
  · rename_i row alone
    have mem := mem_singleton_self row
    rw [← alone] at mem
    obtain ⟨mem,holds⟩ := mem_filter.mp mem
    exact ⟨row,mem,Option.some.inj found,(of_decide_eq_true holds).1⟩
  · cases found

def Granted (ip : UInt32) (before after : Tables) (result : Except UInt32 UInt8) : Prop :=
  (∀ row ∈ before.online, row ∈ after.online) ∧
    ∀ label, result = .ok label → ∃ row ∈ after.online, row.label = label ∧ row.ip = ip

variable {ip : UInt32} {tables : Tables}

theorem granted_error {errcode : UInt32} : Granted ip tables tables (.error errcode) :=
  ⟨fun _ mem => mem,fun _ bad => by cases bad⟩

theorem granted_row
    (row : ∃ row ∈ tables.online, row.label = label ∧ row.ip = ip) :
    Granted ip tables tables (.ok label) := by
  refine ⟨fun _ mem => mem,?_⟩
  intro other same
  cases same
  exact row

variable (zone) (choice : UInt8)

theorem allocLabel_granted (ip : UInt32) (now : TimeT) (ok : Outcome) (tables : Tables) :
    Granted ip tables (allocLabel zone choice ip now ok tables).1
      (allocLabel zone choice ip now ok tables).2 := by
  unfold allocLabel
  split
  · exact granted_error
  · rename_i label _
    rcases allocMove_cases label ip (zone now.toInt) ok tables with kept | ⟨online,_,added,moved⟩
    · rw [kept]
      exact granted_error
    · rw [moved]
      refine ⟨fun row mem => (Table.mem_insert added).mpr (.inr mem),?_⟩
      intro other same
      cases same
      exact ⟨_,(Table.mem_insert added).mpr (.inl rfl),rfl,rfl⟩

theorem rent_granted (expire : UInt32) (now : TimeT) (ip label : UInt32) (choice : UInt8) (ok : Outcome)
    (tables : Tables) :
    Granted ip tables (rent zone expire now ip label choice ok tables).1
      (rent zone expire now ip label choice ok tables).2 := by
  unfold rent
  split
  · exact granted_error
  · split
    · split_ifs with holds
      · exact granted_row (holdValidLabel_row holds)
      · exact granted_error
    · split
      · exact granted_error
      · rename_i held found
        split_ifs with nonzero
        · exact allocLabel_granted zone choice ip now ok tables
        · exact granted_row (getLabel_row found nonzero)

/-- Everything one request can do: an error or silence, or a grant that is remembered. -/
inductive Received (ip : UInt32) (now : TimeT) (message : MessageHead) (before : State) :
    State → Option MessageHead → Prop
  | silent (next : State) (infos : next.infos = before.infos)
    (rows : ∀ row ∈ before.tables.online, row ∈ next.tables.online) : Received ip now message before next none
  | error (next : State) (errcode : UInt32) (infos : next.infos = before.infos)
    (rows : ∀ row ∈ before.tables.online, row ∈ next.tables.online) :
    Received ip now message before next (some (prepareResponseError message errcode))
  | granted (label : UInt8) (tables : Tables) (rows : ∀ row ∈ before.tables.online, row ∈ tables.online)
    (row : ∃ row ∈ tables.online, row.label = label ∧ row.ip = ip) :
    Received ip now message before ⟨remember ⟨label,ip,now⟩ before.infos,tables⟩
      (some (response responseLabel message label.toUInt32 0 0))

theorem receive_received (expire : UInt32) (now : TimeT) (ip : UInt32) (msg : MessageHead) (choice : UInt8)
    (ok : Outcome) (master : State) :
    Received ip now msg master (receive zone expire now ip msg choice ok master).1
      (receive zone expire now ip msg choice ok master).2 := by
  unfold receive
  split
  · exact .silent master rfl (fun _ mem => mem)
  · split
    · have granted := rent_granted zone expire now ip msg.value1 choice ok master.tables
      unfold prepareResponseGetLabel
      cases rented : rent zone expire now ip msg.value1 choice ok master.tables with
      | mk tables res =>
        rw [rented] at granted
        cases res with
        | ok label => exact .granted label tables granted.1 (granted.2 label rfl)
        | error errcode => exact .error _ errcode rfl granted.1
    · exact .error master _ rfl (fun _ mem => mem)

theorem mem_remember {info other : LabelInfo} {infos : Table LabelInfo.label}
    (mem : other ∈ remember info infos) :
    other = info ∨ other ∈ infos ∨ ∃ old ∈ infos, old.label = info.label ∧
      other = {old with leaseTime := info.leaseTime} := by
  unfold remember at mem
  split at mem
  · rename_i next added
    rcases (Table.mem_insert added).mp mem with same | before
    · exact .inl same
    · exact .inr (.inl before)
  · obtain ⟨old,before,rfl⟩ := Table.mem_update.mp mem
    split_ifs with same
    · exact .inr (.inr ⟨old,before,same,rfl⟩)
    · exact .inr (.inl before)

theorem remember_entry (infos : Table LabelInfo.label) :
    ∃ entry ∈ remember info infos, entry.label = info.label ∧ entry.leaseTime = info.leaseTime := by
  unfold remember
  split
  · rename_i next added
    exact ⟨info,(Table.mem_insert added).mpr (.inl rfl),rfl,rfl⟩
  · rename_i taken
    obtain ⟨old,mem,same⟩ := Table.has_iff.mp (Table.insert_eq_none.mp taken)
    refine ⟨_,Table.mem_update.mpr ⟨old,mem,rfl⟩,?_⟩
    rw [if_pos same]
    exact ⟨same,rfl⟩

theorem remember_later (old : LabelInfo) (infos : Table LabelInfo.label) (mem : old ∈ infos)
    (later : old.leaseTime.toInt ≤ info.leaseTime.toInt) :
    ∃ entry ∈ remember info infos, entry.label = old.label ∧ old.leaseTime.toInt ≤ entry.leaseTime.toInt := by
  unfold remember
  split
  · rename_i next added
    exact ⟨old,(Table.mem_insert added).mpr (.inr mem),rfl,le_refl _⟩
  · refine ⟨_,Table.mem_update.mpr ⟨old,mem,rfl⟩,?_⟩
    split
    · exact ⟨rfl,later⟩
    · exact ⟨rfl,le_refl _⟩

theorem renewRow_later : (renewRow zone info row).ip = row.ip ∧ row.time ≤ (renewRow zone info row).time ∧
      (row.label = info.label → row.ip = info.ip →
        zone info.leaseTime.toInt ≤ (renewRow zone info row).time) := by
  unfold renewRow
  split
  · rename_i earlier
    exact ⟨rfl,le_of_lt earlier.2.2,fun _ _ => le_refl _⟩
  · rename_i other
    exact ⟨rfl,le_refl _,fun label ip => not_lt.mp fun earlier => other ⟨label,ip,earlier⟩⟩

theorem renewRows_later (infos : List LabelInfo) (stmt : Nat) (online : Table Online.label) (row : Online)
    (mem : row ∈ online) :
    ∃ next ∈ renewRows zone executed infos stmt online, next.label = row.label ∧ next.ip = row.ip ∧
      row.time ≤ next.time ∧
      ∀ info ∈ infos, info.label = row.label → info.ip = row.ip → zone info.leaseTime.toInt ≤ next.time := by
  induction infos generalizing stmt online row with
  | nil => exact ⟨row,mem,rfl,rfl,le_refl _,by simp⟩
  | cons info rest ih =>
    obtain ⟨ip,time,reached⟩ := renewRow_later zone info row
    obtain ⟨next,found,label,ip',time',later⟩ := ih (stmt+1)
      (online.update (renewRow zone info) (renewRow_label zone info)) (renewRow zone info row)
        (Table.mem_update.mpr ⟨row,mem,rfl⟩)
    rw [renewRow_label] at label
    refine ⟨next,found,label,ip'.trans ip,time.trans time',?_⟩
    intro other listed sameLabel sameIp
    rcases mem_cons.mp listed with rfl | listed
    · exact (reached sameLabel.symm sameIp.symm).trans time'
    · exact later other listed (sameLabel.trans (renewRow_label zone info row).symm) (sameIp.trans ip.symm)

theorem renew_executed (master : State) : renew zone executed master =
    ⟨.empty,{master.tables with
      online := renewRows zone executed master.infos.rows 0 master.tables.online}⟩ := by
  obtain ⟨⟨rows,unique⟩,tables⟩ := master
  cases rows with
  | nil => rfl
  | cons info rest =>
    have updated : (List.range (info::rest).length).any executed = true :=
      List.any_eq_true.mpr ⟨0,by simp,rfl⟩
    unfold renew
    dsimp only
    rw [updated]
    rfl

theorem recycleRow_cases (label : UInt8) (ok : Outcome) (tables : Tables) :
    (recycleRow label ok tables).1 = tables ∨
    ∃ pool, tables.online.has label = true ∧ tables.pool.insert label = some pool ∧
      (recycleRow label ok tables).1 = ⟨pool,tables.online.delete label⟩ := by
  unfold recycleRow
  split
  · exact .inl rfl
  · split
    · exact .inl rfl
    · rename_i there
      split
      · exact .inl rfl
      · rename_i pool added
        split
        · exact .inr ⟨pool,by simpa using there,added,rfl⟩
        · exact .inl rfl

theorem recycleRows_keeps (ok : UInt8 → Outcome) (labels : List UInt8) (tables : Tables) (row : Online)
    (mem : row ∈ tables.online) (kept : row.label ∉ labels) :
    row ∈ (recycleRows ok labels tables).online := by
  induction labels generalizing tables with
  | nil => exact mem
  | cons label rest ih =>
    have later : row ∈ (recycleRow label (ok label) tables).1.online := by
      rcases recycleRow_cases label (ok label) tables with same | ⟨pool,_,_,moved⟩
      · rw [same]
        exact mem
      · rw [moved]
        exact Table.mem_delete.mpr ⟨mem,fun same => kept (mem_cons.mpr (.inl same))⟩
    unfold recycleRows
    split
    · rename_i next eq
      rw [eq] at later
      exact ih next later (fun listed => kept (mem_cons_of_mem label listed))
    · rename_i next eq
      rw [eq] at later
      exact later

theorem freeze_positive (pos : 1 ≤ expire) : 0 < (freeze expire).toNat := by
  unfold freeze
  split_ifs
  · exact UInt32.le_iff_toNat_le.mp pos
  all_goals decide

theorem freeze_le (expire : UInt32) : (freeze expire).toNat ≤ 3600*24*10 := by
  unfold freeze
  split_ifs with hour
  · have hour := UInt32.lt_iff_toNat_lt.mp hour
    have seconds : (3600 : UInt32).toNat = 3600 := by decide
    omega
  all_goals decide

variable {zone}

theorem not_selected {row : Online} (mem : row ∈ online)
    (young : zone (getExpireTime expire now) ≤ row.time) :
    row.label ∉ expiredLabels zone expire now online := by
  intro selected
  obtain ⟨old,late,same⟩ := mem_map.mp selected
  obtain ⟨listed,late⟩ := mem_filter.mp late
  have late := of_decide_eq_true late
  rw [Table.eq_of_key listed mem same] at late
  omega

theorem getExpireTime_wraps (wraps : 2^32 ≤ expire.toNat + 3600*24*10) (now : TimeT) :
    now.toInt - expire.toNat ≤ getExpireTime expire now := by
  have large : ∀ bound : UInt32, bound.toNat ≤ 3600*24*90 → ¬ expire < bound := by
    intro bound small less
    have less := UInt32.lt_iff_toNat_lt.mp less
    omega
  unfold getExpireTime
  rw [if_neg (large _ (by decide)),if_neg (large _ (by decide)),if_neg (large _ (by decide)),
    if_neg (large _ (by decide)),if_neg (large _ (by decide)),UInt32.toNat_add]
  have days : (3600*24*10 : UInt32).toNat = 3600*24*10 := by decide
  omega

/-- No time between the two has a local time in front of the one of the cut-off. -/
def NotBefore (zone : Int → Int) (cutoff first last : Int) : Prop :=
  ∀ time, first ≤ time → time ≤ last → zone cutoff ≤ zone time
deriving Decidable

/-- A label is never selected within its lease exactly when the expiry with ten days of freeze fits
the machine word and the local time of no lease is in front of the one of the cut-off. -/
theorem recycled_after_expiry_iff (zone : Int → Int) (expire : UInt32) (positive : 1 ≤ expire) (now : TimeT) :
    (getExpireTime expire now < now.toInt - expire.toNat ∧
      ∀ (online : Table Online.label) (row : Online) (lease : Int), row ∈ online → row.time = zone lease →
        now.toInt - expire.toNat ≤ lease → lease ≤ now.toInt →
          row.label ∉ expiredLabels zone expire now online) ↔
      expire.toNat + 3600*24*10 < 2^32 ∧
        NotBefore zone (now.toInt - (expire.toNat + (freeze expire).toNat : Nat))
          (now.toInt - expire.toNat) now.toInt := by
  have bound := freeze_le expire
  constructor
  · rintro ⟨earlier,kept⟩
    have fits : expire.toNat + 3600*24*10 < 2^32 := by
      by_contra wide
      have wraps : 2^32 ≤ expire.toNat + 3600*24*10 := by omega
      have later := getExpireTime_wraps wraps now
      omega
    refine ⟨fits,fun lease low high => ?_⟩
    rw [← getExpireTime_eq expire now (by omega)]
    have kept := kept ⟨[⟨1,0,zone lease⟩],nodup_singleton _⟩ _ lease (mem_singleton_self _) rfl low high
    by_contra behind
    exact kept (mem_map.mpr ⟨_,mem_filter.mpr ⟨mem_singleton_self _,decide_eq_true (not_le.mp behind)⟩,rfl⟩)
  · rintro ⟨fits,ordered⟩
    have frozen := freeze_positive positive
    have cutoff := getExpireTime_eq expire now (by omega)
    have earlier : getExpireTime expire now < now.toInt - expire.toNat := by
      omega
    refine ⟨earlier,fun online row lease member stamped low high => not_selected member ?_⟩
    rw [stamped,cutoff]
    exact ordered lease low high

theorem recycled_after_expiry_week : getExpireTime 604800 1000000 <
    (1000000 : TimeT).toInt - (604800 : UInt32).toNat :=
  ((recycled_after_expiry_iff id 604800 (by decide) 1000000).mpr
    ⟨by decide,fun _ low _ => le_trans (by decide) low⟩).1

/-- New York, where clocks are set back by an hour on the first of November 2026. -/
def newYork (time : Int) : Int := time - if time < 1793512800 then 4*3600 else 5*3600

theorem recycled_within_lease :
    (2000000 : TimeT).toInt - (4294967295 : UInt32).toNat ≤ getExpireTime 4294967295 2000000 ∧
      (1 : UInt8) ∈ expiredLabels id 4294967295 2000000 ⟨[⟨1,0,1000000⟩],nodup_singleton _⟩ ∧
      (1 : UInt8) ∈ expiredLabels newYork 600 1793512860 ⟨[⟨1,0,newYork 1793512830⟩],nodup_singleton _⟩ :=
  ⟨by decide,by decide,by decide⟩

end Mooon.UniqId.Master

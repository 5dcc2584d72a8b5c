import Mooon.Slots
import Mooon.Run

/-! `CConfigLoader::load`: the three sections of `sql.json` and the tables they are loaded into. The
JSON library is a parameter; a value that has no number, text or member where one is read is an
exception that leaves `load`. An access to an array in front of its first element is undefined. -/
namespace Mooon.DbProxy.Config
open List Option

/-- The calls of the JSON library, none where one throws. `items` is `json[i]` for each `i` below
`json.size()`. -/
class JsonLibrary (Json : Type) where
  get : Json → String → Option Json
  items : Json → List (Option Json)
  asInt : Json → Option Int
  asString : Json → Option String

open JsonLibrary

variable {Json : Type} [JsonLibrary Json]

def intAt (json : Json) (name : String) : Option Int := get json name >>= asInt

def stringAt (json : Json) (name : String) : Option String := get json name >>= asString

def maxDbConnection : Nat := 100

def maxSqlTemplate : Nat := 10000

structure DbInfo where
  dbAlias : String
  index : Int
  host : String
  port : Int
  name : String
  user : String
  password : String
  charset : String
deriving DecidableEq

structure QueryInfo where
  index : Int
  databaseIndex : Int
  cachedSeconds : Int
  sqlTemplate : String
  sign : String
deriving DecidableEq

structure UpdateInfo where
  index : Int
  databaseIndex : Int
  sqlTemplate : String
  sign : String
deriving DecidableEq

def isSpace (char : Char) : Bool := char = ' ' || char = '\t' || char = '\r' || char = '\n'

def trim (text : String) : String :=
  String.ofList (((text.toList.dropWhile isSpace).reverse.dropWhile isSpace).reverse)

def DbInfo.ofJson (json : Json) : Option DbInfo := do
  let dbAlias ← stringAt json "alias"
  let index ← intAt json "index"
  let host ← stringAt json "host"
  let port ← intAt json "port"
  let name ← stringAt json "name"
  let user ← stringAt json "user"
  let password ← stringAt json "password"
  let charset ← stringAt json "charset"
  return ⟨trim dbAlias,index,host,port,name,user,password,charset⟩

def QueryInfo.ofJson (json : Json) : Option QueryInfo := do
  let index ← intAt json "index"
  let databaseIndex ← intAt json "database_index"
  let cachedSeconds ← intAt json "cached_seconds"
  let sqlTemplate ← stringAt json "sql_template"
  let sign ← stringAt json "sign"
  return ⟨index,databaseIndex,cachedSeconds,sqlTemplate,sign⟩

def UpdateInfo.ofJson (json : Json) : Option UpdateInfo := do
  let index ← intAt json "index"
  let databaseIndex ← intAt json "database_index"
  let sqlTemplate ← stringAt json "sql_template"
  let sign ← stringAt json "sign"
  return ⟨index,databaseIndex,sqlTemplate,sign⟩

/-- The entries of a section, each an exception where it does not convert. -/
def entries {Entry : Type} (ofJson : Json → Option Entry) (root : Json)
    (name : String) : List (Option Entry) :=
  match get root name with
  | none => [none]
  | some json => (items json).map (· >>= ofJson)

inductive Fault where
  | refused
  | threw
  | undefined
deriving DecidableEq

section
variable {Entry : Type} (index : Entry → Int) (size : Nat)

def check (entry : Entry) : Bool := index entry < size

def addInfo (entry : Entry) (slots : Slots index size) : Except Fault (Slots index size) :=
  if (size : Int) ≤ index entry then .error .refused
  else if inside : Slots.Inside size (index entry) then
    if (slots.find (index entry)).isSome then .error .refused else .ok (slots.put entry inside)
  else .error .undefined

def loadInfos (slots : Slots index size) : List (Option Entry) → Except Fault (Slots index size)
  | [] => .ok slots
  | none::_ => .error .threw
  | some entry::rest =>
    if check index size entry then do
      let slots ← addInfo index size entry slots
      loadInfos slots rest
    else .error .refused

end

abbrev Databases := Slots DbInfo.index maxDbConnection
abbrev Queries := Slots QueryInfo.index maxSqlTemplate
abbrev Updates := Slots UpdateInfo.index maxSqlTemplate

def DbInfo.check (info : DbInfo) : Bool := Config.check DbInfo.index maxDbConnection info

def addDbInfo (info : DbInfo) (slots : Databases) : Except Fault Databases :=
  addInfo DbInfo.index maxDbConnection info slots

def DbInfo.marked (info : DbInfo) (aliasSet : List String) : DbInfo :=
  if info.dbAlias ≠ "" ∧ info.dbAlias ∈ aliasSet then {info with dbAlias := "-" ++ info.dbAlias} else info

def loadDatabase (aliasSet : List String) (slots : Databases) : List (Option DbInfo) → Except Fault Databases
  | [] => .ok slots
  | none::_ => .error .threw
  | some info::rest =>
    if info.check then do
      let slots ← addDbInfo (info.marked aliasSet) slots
      loadDatabase (if info.dbAlias = "" then aliasSet else info.dbAlias::aliasSet) slots rest
    else .error .refused

def loadQuery (slots : Queries) (listing : List (Option QueryInfo)) : Except Fault Queries :=
  loadInfos QueryInfo.index maxSqlTemplate slots listing

def loadUpdate (slots : Updates) (listing : List (Option UpdateInfo)) : Except Fault Updates :=
  loadInfos UpdateInfo.index maxSqlTemplate slots listing

structure Tables where
  databases : Databases
  queries : Queries
  updates : Updates

def Tables.empty : Tables := ⟨.empty,.empty,.empty⟩

def queries (root : Json) : List (Option QueryInfo) := entries QueryInfo.ofJson root "query"

def updates (root : Json) : List (Option UpdateInfo) := entries UpdateInfo.ofJson root "update"

def loadTables (root : Json) : Except Fault Tables := do
  let databases ← loadDatabase [] .empty (entries DbInfo.ofJson root "database")
  let queries ← loadQuery .empty (queries root)
  let updates ← loadUpdate .empty (updates root)
  return ⟨databases,queries,updates⟩

/-- `root` is the configuration that `md5Sum` is of. -/
structure Loader (Json Digest : Type) where
  md5Sum : Option Digest
  root : Option Json
  tables : Tables

def Loader.initial {Digest : Type} : Loader Json Digest := ⟨none,none,.empty⟩

inductive File (Json : Type) where
  | unreadable
  | malformed
  | parsed (root : Json)

inductive Result where
  | returned (loaded : Bool)
  | threw
  | undefined
deriving DecidableEq

def load {Digest : Type} [DecidableEq Digest] (md5 : Json → Digest) (loader : Loader Json Digest) :
    File Json → Loader Json Digest × Result
  | .unreadable => (loader,.returned false)
  | .malformed => (loader,.returned false)
  | .parsed root =>
    if loader.md5Sum = some (md5 root) then (loader,.returned true)
    else
      match loadTables root with
      | .ok tables => (⟨some (md5 root),some root,tables⟩,.returned true)
      | .error .refused => (loader,.returned false)
      | .error .threw => (loader,.threw)
      | .error .undefined => (loader,.undefined)

section
variable {Entry : Type} (index : Entry → Int) (size : Nat)

def Fits (listed : List Entry) : Prop :=
  (∀ entry ∈ listed, Slots.Inside size (index entry)) ∧ (listed.map index).Nodup

/-- Behind entries that fit, an entry that does not convert or has a negative index. -/
def SpoiledAfter (held : List Entry) (listing : List (Option Entry)) : Prop :=
  ∃ before bad after, listing = before.map some ++ bad::after ∧ Fits index size (held++before) ∧
    ∀ entry, bad = some entry → index entry < 0

def WholeAfter (held : List Entry) (listing : List (Option Entry)) : Prop :=
  ∃ listed, listing = listed.map some ∧ Fits index size (held++listed)

def Holds {index : Entry → Int} {size : Nat} (slots : Slots index size) (listed : List Entry) : Prop :=
  ∀ entry, entry ∈ slots ↔ entry ∈ listed

variable {index size} {held : List Entry} {entry : Entry} {rest : List (Option Entry)}

theorem fits_append_cons {before : List Entry} (fits : Fits index size (held++entry::before)) :
    Slots.Inside size (index entry) ∧ index entry ∉ held.map index := by
  refine ⟨fits.1 entry (by simp),?_⟩
  have apart := fits.2
  rw [map_append,nodup_append] at apart
  intro mem
  exact apart.2.2 _ mem _ mem_cons_self rfl

theorem fits_snoc (fits : Fits index size held) (inside : Slots.Inside size (index entry))
    (free : index entry ∉ held.map index) : Fits index size (held++[entry]) := by
  refine ⟨?_,?_⟩
  · intro other mem
    rcases mem_append.mp mem with old | new
    · exact fits.1 other old
    · rw [mem_singleton.mp new]
      exact inside
  · rw [map_append,nodup_append]
    refine ⟨fits.2,nodup_singleton _,?_⟩
    intro number old other new
    rw [map_singleton,mem_singleton] at new
    rw [new]
    rintro rfl
    exact free old

theorem spoiledAfter_cons (pos : 0 ≤ index entry) :
    SpoiledAfter index size held (some entry::rest) ↔ SpoiledAfter index size (held++[entry]) rest := by
  constructor
  · rintro ⟨before,bad,after,split,fits,neg⟩
    cases before with
    | nil =>
      simp only [map_nil,nil_append,cons.injEq] at split
      have := neg entry split.1.symm
      omega
    | cons first before =>
      obtain ⟨rfl,rfl⟩ := split
      exact ⟨before,bad,after,rfl,by simpa using fits,neg⟩
  · rintro ⟨before,bad,after,rfl,fits,neg⟩
    exact ⟨entry::before,bad,after,rfl,by simpa using fits,neg⟩

theorem wholeAfter_cons : WholeAfter index size held (some entry::rest) ↔
    WholeAfter index size (held++[entry]) rest := by
  constructor
  · rintro ⟨listed,split,fits⟩
    cases listed with
    | nil => cases split
    | cons first listed =>
      obtain ⟨rfl,rfl⟩ := split
      exact ⟨listed,rfl,by simpa using fits⟩
  · rintro ⟨listed,rfl,fits⟩
    exact ⟨entry::listed,rfl,by simpa using fits⟩

theorem refused_of_unfit (pos : 0 ≤ index entry)
    (unfit : ¬ (Slots.Inside size (index entry) ∧ index entry ∉ held.map index)) :
    ¬ SpoiledAfter index size held (some entry::rest) ∧ ¬ WholeAfter index size held (some entry::rest) := by
  constructor
  · rw [spoiledAfter_cons pos]
    rintro ⟨before,bad,after,_,fits,_⟩
    exact unfit (fits_append_cons (by simpa using fits))
  · rw [wholeAfter_cons]
    rintro ⟨listed,_,fits⟩
    exact unfit (fits_append_cons (by simpa using fits))

theorem not_spoiledAfter_of_wholeAfter {listing : List (Option Entry)}
    (whole : WholeAfter index size held listing) : ¬ SpoiledAfter index size held listing := by
  rintro ⟨before,bad,after,split,_,neg⟩
  obtain ⟨listed,rfl,fits⟩ := whole
  have mem : bad ∈ listed.map some := by
    rw [split]
    simp
  obtain ⟨entry,inside,rfl⟩ := mem_map.mp mem
  have := neg entry rfl
  have := (fits.1 entry (mem_append_right _ inside)).1
  omega

theorem find_eq_none_iff {slots : Slots index size} (holds : Holds slots held) (number : Int) :
    slots.find number = none ↔ number ∉ held.map index := by
  constructor
  · intro absent mem
    obtain ⟨entry,old,rfl⟩ := mem_map.mp mem
    have found : slots.find (index entry) = some entry := (holds entry).mpr old
    rw [absent] at found
    cases found
  · intro free
    cases found : slots.find number with
    | none => rfl
    | some entry =>
      have old := (holds entry).mp (Slots.mem_of_find found)
      exact absurd (mem_map.mpr ⟨entry,old,(Slots.find_some found).1⟩) free

variable (index size held) in
/-- A loop over a section ends with all its entries in the slots when the section is whole, with an
exception or an undefined access when it is spoiled, and otherwise refuses it. -/
def Loads (listing : List (Option Entry)) : Except Fault (Slots index size) → Prop
  | .ok loaded => ∃ listed, listing = listed.map some ∧ Fits index size (held++listed) ∧
    Holds loaded (held++listed)
  | .error .refused => ¬ SpoiledAfter index size held listing ∧ ¬ WholeAfter index size held listing
  | .error .threw => SpoiledAfter index size held listing
  | .error .undefined => SpoiledAfter index size held listing

theorem loads_cons {res : Except Fault (Slots index size)} (pos : 0 ≤ index entry)
    (loads : Loads index size (held++[entry]) rest res) : Loads index size held (some entry::rest) res := by
  cases res with
  | ok loaded =>
    obtain ⟨listed,rfl,fits,holds⟩ := loads
    exact ⟨entry::listed,rfl,by simpa using fits,by simpa using holds⟩
  | error fault =>
    cases fault with
    | refused => exact ⟨(spoiledAfter_cons pos).not.mpr loads.1,wholeAfter_cons.not.mpr loads.2⟩
    | threw | undefined => exact (spoiledAfter_cons pos).mpr loads

theorem loadInfos_loads (slots : Slots index size) (listing : List (Option Entry)) (holds : Holds slots held)
    (fits : Fits index size held) : Loads index size held listing (loadInfos index size slots listing) := by
  induction listing generalizing slots held with
  | nil => exact ⟨[],rfl,by simpa using fits,by simpa using holds⟩
  | cons first rest ih =>
    cases first with
    | none =>
      refine ⟨[],none,rest,rfl,by simpa using fits,?_⟩
      intro entry absent
      cases absent
    | some entry =>
      unfold loadInfos
      by_cases large : (size : Int) ≤ index entry
      · have checked : ¬ check index size entry = true := by simpa [check] using large
        rw [if_neg checked]
        apply refused_of_unfit (by omega)
        rintro ⟨⟨_,small⟩,_⟩
        omega
      · have checked : check index size entry = true := by simpa [check] using large
        rw [if_pos checked]
        unfold addInfo
        rw [if_neg large]
        by_cases inside : Slots.Inside size (index entry)
        · rw [dif_pos inside]
          cases found : slots.find (index entry) with
          | some other =>
            apply refused_of_unfit inside.1
            rintro ⟨_,free⟩
            rw [(find_eq_none_iff holds _).mpr free] at found
            cases found
          | none =>
            have free := (find_eq_none_iff holds _).mp found
            have holds' : Holds (slots.put entry inside) (held++[entry]) := by
              intro other
              rw [Slots.mem_put inside found,holds other,mem_append,mem_singleton,or_comm]
            exact loads_cons inside.1 (ih (slots.put entry inside) holds' (fits_snoc fits inside free))
        · rw [dif_neg inside]
          refine ⟨[],some entry,rest,rfl,by simpa using fits,?_⟩
          intro other same
          cases same
          unfold Slots.Inside at inside
          omega

end

def markAliases (aliasSet : List String) : List (Option DbInfo) → List (Option DbInfo)
  | [] => []
  | none::rest => none::markAliases aliasSet rest
  | some info::rest =>
    some (info.marked aliasSet)::markAliases
      (if info.dbAlias = "" then aliasSet else info.dbAlias::aliasSet) rest

variable {aliasSet : List String}

@[simp] theorem marked_index {info : DbInfo} : (info.marked aliasSet).index = info.index := by
  unfold DbInfo.marked
  split <;> rfl

theorem loadDatabase_eq {slots : Databases} {listing : List (Option DbInfo)} :
    loadDatabase aliasSet slots listing =
      loadInfos DbInfo.index maxDbConnection slots (markAliases aliasSet listing) := by
  induction listing generalizing aliasSet slots with
  | nil => rfl
  | cons first rest ih =>
    cases first with
    | none => rfl
    | some info =>
      have checked : check DbInfo.index maxDbConnection (info.marked aliasSet) = info.check := by
        simp only [DbInfo.check,check,marked_index]
      simp only [loadDatabase,markAliases,loadInfos,checked,addDbInfo,ih]

def databases (root : Json) : List (Option DbInfo) := markAliases [] (entries DbInfo.ofJson root "database")

def Whole {Entry : Type} (index : Entry → Int) (size : Nat) (listing : List (Option Entry)) : Prop :=
  WholeAfter index size [] listing

def Spoiled {Entry : Type} (index : Entry → Int) (size : Nat) (listing : List (Option Entry)) : Prop :=
  SpoiledAfter index size [] listing

def aliases (listing : List (Option DbInfo)) : List String :=
  (listing.filterMap fun info => info.map DbInfo.dbAlias).filter (· ≠ "")

def DistinctAliases (listing : List (Option DbInfo)) : Prop := (aliases listing).Nodup

def Contains {Entry : Type} {index : Entry → Int} {size : Nat} (slots : Slots index size)
    (listing : List (Option Entry)) : Prop :=
  ∃ listed, listing = listed.map some ∧ Fits index size listed ∧ Holds slots listed

structure Tables.Of (root : Json) (tables : Tables) : Prop where
  databases : Contains tables.databases (Config.databases root)
  queries : Contains tables.queries (Config.queries root)
  updates : Contains tables.updates (Config.updates root)

def AllOrNothing {Digest : Type} [DecidableEq Digest] (md5 : Json → Digest)
    (loader : Loader Json Digest) (root : Json) : Prop :=
  ((load md5 loader (.parsed root)).2 = .returned false ∧
    (load md5 loader (.parsed root)).1.tables = loader.tables) ∨
  ((load md5 loader (.parsed root)).2 = .returned true ∧ (load md5 loader (.parsed root)).1.tables.Of root ∧
    DistinctAliases (databases root))

/-- No alias is listed more than twice, nor twice beside its own marked form. -/
def FewAliases (listed : List String) : Prop :=
  ∀ dbAlias ∈ listed, listed.count dbAlias ≤ if "-" ++ dbAlias ∈ listed then 1 else 2

/-- No entry that the loops come to has a negative index or does not convert, and an alias is listed
few times. -/
structure Clean (root : Json) : Prop where
  databases : ¬ Spoiled DbInfo.index maxDbConnection (databases root)
  queries : Whole DbInfo.index maxDbConnection (Config.databases root) →
    ¬ Spoiled QueryInfo.index maxSqlTemplate (queries root)
  updates : Whole DbInfo.index maxDbConnection (Config.databases root) →
    Whole QueryInfo.index maxSqlTemplate (Config.queries root) →
      ¬ Spoiled UpdateInfo.index maxSqlTemplate (updates root)
  aliases : Whole DbInfo.index maxDbConnection (Config.databases root) →
    Whole QueryInfo.index maxSqlTemplate (Config.queries root) →
    Whole UpdateInfo.index maxSqlTemplate (Config.updates root) →
    FewAliases (aliases (entries DbInfo.ofJson root "database"))

/-- An alias met before, or in `seen`, marked. -/
def marks (seen : List String) : List String → List String
  | [] => []
  | dbAlias::rest => (if dbAlias ∈ seen then "-" ++ dbAlias else dbAlias)::marks (dbAlias::seen) rest

theorem aliases_cons {info : DbInfo} {rest : List (Option DbInfo)} :
    aliases (some info::rest) = if info.dbAlias = "" then aliases rest else info.dbAlias::aliases rest := by
  by_cases empty : info.dbAlias = "" <;> simp [aliases,empty]

theorem aliases_markAliases {listing : List (Option DbInfo)} :
    aliases (markAliases aliasSet listing) = marks aliasSet (aliases listing) := by
  induction listing generalizing aliasSet with
  | nil => rfl
  | cons first rest ih =>
    cases first with
    | none => exact ih
    | some info =>
      simp only [markAliases,aliases_cons,ih,DbInfo.marked]
      by_cases empty : info.dbAlias = ""
      · simp [empty]
      · by_cases old : info.dbAlias ∈ aliasSet <;> simp [empty,old,marks]

section
variable {listed seen : List String} {dbAlias text : String}

theorem count_marks : (marks seen listed).count ("-" ++ dbAlias) =
      (if dbAlias ∈ seen then listed.count dbAlias else listed.count dbAlias - 1) +
        if "-" ++ dbAlias ∈ listed ∧ "-" ++ dbAlias ∉ seen then 1 else 0 := by
  induction listed generalizing seen with
  | nil => simp [marks]
  | cons first rest ih =>
    have same : "-" ++ first = "-" ++ dbAlias ↔ first = dbAlias := by simp [← String.toList_inj]
    have apart : "-" ++ dbAlias ≠ dbAlias := fun equal => by simpa using congrArg String.length equal
    have met := @count_pos_iff _ _ _ dbAlias rest
    simp only [marks,count_cons,ih,beq_iff_eq,mem_cons]
    grind

theorem count_marks_le (other : ∀ dbAlias, text ≠ "-" ++ dbAlias) :
    (marks seen listed).count text ≤ if text ∈ seen then 0 else 1 := by
  induction listed generalizing seen with
  | nil => simp [marks]
  | cons first rest ih =>
    have rest' := @ih (first::seen)
    simp only [marks,count_cons,beq_iff_eq]
    grind

theorem nodup_marks : (marks [] listed).Nodup ↔ FewAliases listed := by
  rw [nodup_iff_count_le_one]
  have count (dbAlias : String) : (marks [] listed).count ("-" ++ dbAlias) =
      listed.count dbAlias - 1 + if "-" ++ dbAlias ∈ listed then 1 else 0 := by simp [count_marks]
  constructor
  · intro few dbAlias _
    have := few ("-" ++ dbAlias)
    grind
  · intro few text
    by_cases marked : ∃ dbAlias, text = "-" ++ dbAlias
    · obtain ⟨dbAlias,rfl⟩ := marked
      have := few dbAlias
      have := @count_pos_iff _ _ _ dbAlias listed
      grind
    · exact count_marks_le (by simpa using marked)

end

theorem distinctAliases_iff {root : Json} :
    DistinctAliases (databases root) ↔ FewAliases (aliases (entries DbInfo.ofJson root "database")) := by
  rw [DistinctAliases,databases,aliases_markAliases,nodup_marks]

section
variable {Entry : Type} {index : Entry → Int} {size : Nat} {listing : List (Option Entry)}

variable (index size) in
theorem loadInfos_empty : Loads index size [] listing (loadInfos index size .empty listing) := by
  apply loadInfos_loads
  · intro entry
    simp [Slots.not_mem_empty]
  · exact ⟨by simp,nodup_nil⟩

variable {slots : Slots index size}

theorem Contains.whole (contains : Contains slots listing) : Whole index size listing := by
  obtain ⟨listed,all,fits,_⟩ := contains
  exact ⟨listed,all,fits⟩

theorem Contains.unspoiled (contains : Contains slots listing) :
    ¬ Spoiled index size listing := not_spoiledAfter_of_wholeAfter contains.whole

end

theorem clean_iff_of_tables {root : Json} {tables : Tables} (loaded : tables.Of root) :
    Clean root ↔ DistinctAliases (databases root) := by
  rw [distinctAliases_iff]
  constructor
  · intro clean
    exact clean.aliases loaded.databases.whole loaded.queries.whole loaded.updates.whole
  · intro nodup
    exact ⟨loaded.databases.unspoiled,fun _ => loaded.queries.unspoiled,fun _ _ => loaded.updates.unspoiled,
      fun _ _ _ => nodup⟩

/-- What loading a configuration comes to: tables that hold it, a refusal of a clean one, or the
fault of another. -/
def Loading (root : Json) : Except Fault Tables → Prop
  | .ok tables => tables.Of root
  | .error .refused => Clean root
  | .error .threw => ¬ Clean root
  | .error .undefined => ¬ Clean root

theorem loadTables_loading (root : Json) : Loading root (loadTables root) := by
  have first : Loads _ _ [] (databases root)
      (loadDatabase [] .empty (entries DbInfo.ofJson root "database")) := by
    rw [loadDatabase_eq]
    exact loadInfos_empty _ _
  have second : Loads _ _ [] (queries root) (loadQuery .empty (queries root)) := loadInfos_empty _ _
  have third : Loads _ _ [] (updates root) (loadUpdate .empty (updates root)) := loadInfos_empty _ _
  unfold loadTables
  cases one : loadDatabase [] .empty (entries DbInfo.ofJson root "database") with
  | error fault =>
    rw [one] at first
    cases fault with
    | refused =>
      exact ⟨first.1,fun whole => absurd whole first.2,fun whole => absurd whole first.2,
        fun whole => absurd whole first.2⟩
    | threw | undefined => exact fun clean => clean.databases first
  | ok databases' =>
    rw [one] at first
    have loaded : Contains databases' (databases root) := first
    cases two : loadQuery .empty (queries root) with
    | error fault =>
      rw [two] at second
      cases fault with
      | refused =>
        exact ⟨loaded.unspoiled,fun _ => second.1,fun _ whole => absurd whole second.2,
          fun _ whole => absurd whole second.2⟩
      | threw | undefined => exact fun clean => clean.queries loaded.whole second
    | ok queries' =>
      rw [two] at second
      have loaded' : Contains queries' (queries root) := second
      cases three : loadUpdate .empty (updates root) with
      | error fault =>
        rw [three] at third
        cases fault with
        | refused =>
          exact ⟨loaded.unspoiled,fun _ => loaded'.unspoiled,fun _ _ => third.1,
            fun _ _ whole => absurd whole third.2⟩
        | threw | undefined => exact fun clean => clean.updates loaded.whole loaded'.whole third
      | ok updates' =>
        rw [three] at third
        exact ⟨loaded,loaded',third⟩

section
variable {Digest : Type} [DecidableEq Digest] {md5 : Json → Digest}

/-- The tables hold the configuration that the digest is of, one of those given. -/
structure Loader.Loaded (md5 : Json → Digest) (given : Json → Prop) (loader : Loader Json Digest) : Prop where
  digest : loader.md5Sum = loader.root.map md5
  tables : ∀ root, loader.root = some root → given root ∧ loader.tables.Of root

variable {given : Json → Prop} {loader : Loader Json Digest}

section
variable (loaded : loader.Loaded md5 given)
include loaded

theorem load_loaded {file : File Json}
    (new : ∀ root, file = .parsed root → given root) : (load md5 loader file).1.Loaded md5 given := by
  cases file with
  | unreadable | malformed => exact loaded
  | parsed root =>
    have loading := loadTables_loading root
    simp only [load]
    split
    · exact loaded
    · cases res : loadTables root with
      | ok tables =>
        rw [res] at loading
        refine ⟨rfl,?_⟩
        intro other same
        cases same
        exact ⟨new root rfl,loading⟩
      | error fault => cases fault <;> exact loaded

theorem final_loaded
    {files : List (File Json)} (new : ∀ root, .parsed root ∈ files → given root) :
    (Run.final (load md5) loader files).Loaded md5 given := by
  induction files generalizing loader with
  | nil => exact loaded
  | cons file rest ih =>
    apply ih
    · apply load_loaded loaded
      rintro root rfl
      exact new root mem_cons_self
    · intro root mem
      exact new root (mem_cons_of_mem _ mem)

theorem allOrNothing_iff {root : Json}
    (nodup : ∀ other, given other → md5 other = md5 root → other = root) :
    AllOrNothing md5 loader root ↔ Clean root := by
  unfold AllOrNothing
  simp only [load]
  split_ifs with same
  · rw [loaded.digest,map_eq_some_iff] at same
    obtain ⟨last,held,equal⟩ := same
    obtain ⟨before,tables⟩ := loaded.tables last held
    cases nodup last before equal
    rw [clean_iff_of_tables tables]
    simp [tables]
  · have loading := loadTables_loading root
    cases res : loadTables root with
    | ok tables =>
      rw [res] at loading
      rw [clean_iff_of_tables loading]
      simp [show tables.Of root from loading]
    | error fault =>
      rw [res] at loading
      cases fault with
      | refused => simp [show Clean root from loading]
      | threw | undefined => simp [show ¬ Clean root from loading]

end

end

inductive Sample where
  | null
  | integer (value : Int)
  | string (value : String)
  | array (items : List Sample)
  | object (members : List (String × Sample))

instance : JsonLibrary Sample where
  get
    | .object members,name => some ((members.lookup name).getD .null)
    | .null,_ => some .null
    | _,_ => none
  items
    | .array items => items.map some
    | _ => []
  asInt
    | .integer value => some value
    | .null => some 0
    | _ => none
  asString
    | .string value => some value
    | .null => some ""
    | _ => none

def sampleDatabase (index : Int) (dbAlias : String) : Sample :=
  .object [("index",.integer index),("alias",.string dbAlias),("port",.integer 3306)]

def sampleRoot (databases : List Sample) : Sample := .object [("database",.array databases)]

end Mooon.DbProxy.Config

import Mooon.DbProxy.Calls
import Mooon.DbProxy.QueryCache

/-! The number of entries in the cache of query results: `_cached_number`, the table and
`--cache_number` along runs of whole queries and sweeps. Each query has its own configuration,
connections, clock and answers. -/
namespace Mooon.DbProxy.Handler.CacheNumber
open Config Run

inductive Action where
  | query (environment : Environment) (tables : Tables) (now : Nat) (connections : Connections)
    (request : QueryRequest)
  | cleanup (now : Nat)

section
variable {Digest : Type} [DecidableEq Digest] (setting : Setting Digest)

def step (cache : Cache Digest) : Action → Cache Digest × Unit
  | .query environment tables now connections request =>
    ((Handler.query setting environment tables now connections cache request).cache,())
  | .cleanup now => (cleanupCache now cache,())

def Counted (cache : Cache Digest) : Prop := cache.cachedNumber = cache.table.rows.length

/-- A statement of a cached template that is not in the cache, and that MySQL answers with rows. -/
def Caches (cache : Cache Digest) (environment : Environment) (tables : Tables) (connections : Connections)
    (request : QueryRequest) : Prop :=
  ∃ info after sql rows, Built environment tables connections request info after sql ∧
    1 ≤ info.cachedSeconds ∧
    cache.table.find (setting.md5 sql) = none ∧ environment.answer = .ok rows ∧ rows ≠ []

def Room (cache : Cache Digest) : Action → Prop
  | .query environment tables _ connections request =>
    Caches setting cache environment tables connections request →
      (cache.table.rows.length : Int) < setting.cacheNumber
  | .cleanup _ => True

structure Bounded (cache : Cache Digest) : Prop where
  counted : Counted cache
  bounded : cache.cachedNumber ≤ setting.cacheNumber

variable {setting}

def SameSize (before after : Cache Digest) : Prop :=
  after.cachedNumber = before.cachedNumber ∧ after.table.rows.length = before.table.rows.length

variable {md5 : String → Digest}

theorem getDataFromCache_size {now : Nat} {sql : String} {cache : Cache Digest} :
    SameSize cache (getDataFromCache md5 now sql cache).1 := by
  unfold getDataFromCache
  split
  · exact ⟨rfl,rfl⟩
  · exact ⟨rfl,List.length_map _⟩

variable {cache : Cache Digest} (now : Nat)

theorem addDataToCache_absent {cacheNumber : Int} {origin : Origin}
    (cachedSeconds : Int) (room : ¬cacheNumber < cache.cachedNumber)
    (absent : cache.table.find (md5 origin.sql) = none) :
    (addDataToCache md5 cacheNumber now cachedSeconds origin cache).cachedNumber = cache.cachedNumber + 1 ∧
      (addDataToCache md5 cacheNumber now cachedSeconds origin cache).table.rows.length =
        cache.table.rows.length + 1 := by
  obtain ⟨next,added,length⟩ := Table.insert_of_find
    (⟨md5 origin.sql,⟨now,cachedSeconds,origin.rows⟩,origin⟩ : CacheEntry Digest) absent
  unfold addDataToCache
  rw [if_neg room]
  dsimp only
  rw [added]
  exact ⟨rfl,length⟩

section
variable {env : Environment} {tables : Tables} (now : Nat) {conns : Connections} {cache : Cache Digest}
  {req : QueryRequest}

theorem query_caches (caches : Caches setting cache env tables conns req) :
    ∃ cachedSeconds origin, cache.table.find (setting.md5 origin.sql) = none ∧
      (query setting env tables now conns cache req).cache =
        addDataToCache setting.md5 setting.cacheNumber now cachedSeconds origin cache := by
  obtain ⟨info,after,sql,rows,built,pos,absent,answer,some⟩ := caches
  refine ⟨info.cachedSeconds,⟨info.databaseIndex,sql,rows,now⟩,absent,?_⟩
  have course : QueryCourse setting env tables now conns cache req
    (query setting env tables now conns cache req) := query_course
  generalize query setting env tables now conns cache req = outcome at course ⊢
  cases course with
  | unbuilt none _ => exact absurd built (none info after sql)
  | hit built' _ there =>
    obtain ⟨rfl,rfl⟩ := built.unique built'
    rw [absent] at there
    cases there
  | asked built' _ =>
    obtain ⟨rfl,rfl⟩ := built.unique built'
    dsimp only [finishQuery]
    rw [answer]
    dsimp only
    rw [if_pos ⟨by omega,some⟩]

theorem query_size (other : ¬Caches setting cache env tables conns req) :
    SameSize cache (query setting env tables now conns cache req).cache := by
  have course : QueryCourse setting env tables now conns cache req
    (query setting env tables now conns cache req) := query_course
  generalize query setting env tables now conns cache req = outcome at course ⊢
  cases course with
  | unbuilt _ _ => exact ⟨rfl,rfl⟩
  | hit _ _ _ => exact getDataFromCache_size
  | asked built absent =>
    dsimp only [finishQuery]
    cases answer : env.answer with
    | error error => exact ⟨rfl,rfl⟩
    | ok rows =>
      dsimp only
      split_ifs with stored
      · refine absurd ⟨_,_,_,rows,built,?_,?_,answer,stored.2⟩ other
        · omega
        · exact absent.resolve_left (by omega)
      · exact ⟨rfl,rfl⟩

end

omit [DecidableEq Digest] in
theorem cleanupCache_counted (counted : Counted cache) :
    Counted (cleanupCache now cache) ∧ (cleanupCache now cache).cachedNumber ≤ cache.cachedNumber := by
  have less : (cache.table.filter (CacheEntry.fresh now)).rows.length ≤ cache.table.rows.length :=
    List.length_filter_le _ _
  unfold Counted at counted ⊢
  constructor
  · change cache.cachedNumber - ((cache.table.rows.length - (cache.table.filter
      (CacheEntry.fresh now)).rows.length : Nat) : Int) =
      ((cache.table.filter (CacheEntry.fresh now)).rows.length : Int)
    omega
  · change cache.cachedNumber - ((cache.table.rows.length - (cache.table.filter
      (CacheEntry.fresh now)).rows.length : Nat) : Int) ≤
      cache.cachedNumber
    omega

variable (setting) in
theorem step_counted (act : Action) (counted : Counted cache) : Counted (step setting cache act).1 := by
  cases act with
  | cleanup now => exact (cleanupCache_counted now counted).1
  | query env tables now conns req =>
    by_cases caches : Caches setting cache env tables conns req
    · obtain ⟨cachedSeconds,origin,absent,after⟩ := query_caches now caches
      change Counted (query setting env tables now conns cache req).cache
      rw [after]
      by_cases full : setting.cacheNumber < cache.cachedNumber
      · rw [addDataToCache,if_pos full]
        exact counted
      · obtain ⟨number,length⟩ := addDataToCache_absent now cachedSeconds full absent
        unfold Counted at counted ⊢
        omega
    · obtain ⟨number,length⟩ := query_size now caches
      unfold Counted at counted ⊢
      change (query setting env tables now conns cache req).cache.cachedNumber =
        (query setting env tables now conns cache req).cache.table.rows.length
      omega

theorem step_bounded_iff {act : Action} (bounded : Bounded setting cache) :
    Bounded setting (step setting cache act).1 ↔ Room setting cache act := by
  obtain ⟨counted,limit⟩ := bounded
  have after := step_counted setting act counted
  unfold Counted at counted
  cases act with
  | cleanup now =>
    have less := (cleanupCache_counted now counted).2
    refine iff_of_true ⟨after,?_⟩ trivial
    change (cleanupCache now cache).cachedNumber ≤ setting.cacheNumber
    omega
  | query env tables now conns req =>
    by_cases caches : Caches setting cache env tables conns req
    · obtain ⟨cachedSeconds,origin,absent,same⟩ := query_caches now caches
      have room : ¬setting.cacheNumber < cache.cachedNumber := by omega
      obtain ⟨number,-⟩ := addDataToCache_absent now cachedSeconds room absent
      rw [← same] at number
      have cond : Room setting cache (.query env tables now conns req) ↔
          (cache.table.rows.length : Int) < setting.cacheNumber :=
            ⟨fun room => room caches,fun less _ => less⟩
      rw [cond]
      constructor
      · intro bounded
        have limit : (query setting env tables now conns cache req).cache.cachedNumber ≤
            setting.cacheNumber := bounded.bounded
        omega
      · intro less
        refine ⟨after,?_⟩
        change (query setting env tables now conns cache req).cache.cachedNumber ≤ _
        omega
    · obtain ⟨number,-⟩ := query_size now caches
      refine iff_of_true ⟨after,?_⟩ (fun some => absurd some caches)
      change (query setting env tables now conns cache req).cache.cachedNumber ≤ _
      omega

end

/-- In every run of queries and sweeps the counter is the number of entries, and it stays within
`--cache_number` exactly when no query adds an entry to a cache that is full. -/
theorem cache_bounded_iff {Digest : Type} [DecidableEq Digest] (setting : Setting Digest)
    (positive : 1 ≤ setting.cacheNumber) (actions : List Action) :
    Counted (final (step setting) .empty actions) ∧
    (Run.Meets (fun cache action => Bounded setting (step setting cache action).1) (step setting)
      .empty actions ↔
      Run.Meets (Room setting) (step setting) .empty actions) := by
  constructor
  · apply always Counted
    · exact fun cache action _ counted => step_counted setting action counted
    · rfl
  · apply meets_congr (Bounded setting)
    · exact fun cache action _ _ bounded => bounded
    · exact fun cache action _ bounded => step_bounded_iff bounded
    · refine ⟨rfl,?_⟩
      change (0 : Int) ≤ setting.cacheNumber
      omega

def sampleQuery (limit : Int) : Action :=
  .query {QueryCache.sampleEnvironment with answer := .ok [["zero"]]} QueryCache.sampleTables 0
    (fun _ => false)
    ⟨"",0,[],limit,-1⟩

theorem room_one {cache : Cache String} (empty : cache.table.rows.length = 0) :
    Room (⟨id,1⟩ : Setting String) cache (sampleQuery 1) := by
  intro _
  rw [empty]
  decide

theorem cache_bounded_once : (1 : Int) ≤ (⟨id,1⟩ : Setting String).cacheNumber ∧
      Run.Meets (fun cache action => Bounded ⟨id,1⟩ (step ⟨id,1⟩ cache action).1)
        (step (⟨id,1⟩ : Setting String)) .empty
        [sampleQuery 1,.cleanup 20,sampleQuery 1] := by
  refine ⟨by decide,(cache_bounded_iff ⟨id,1⟩ (by decide) _).2.mpr ⟨room_one ?_,trivial,room_one ?_,trivial⟩⟩
  · rfl
  · decide +kernel

theorem cache_over_number :
    (final (step (⟨id,1⟩ : Setting String)) .empty [sampleQuery 1,sampleQuery 2]).cachedNumber = 2 ∧
      ¬Bounded (⟨id,1⟩ : Setting String)
        (final (step (⟨id,1⟩ : Setting String)) .empty [sampleQuery 1,sampleQuery 2]) := by
  have number :
      (final (step (⟨id,1⟩ : Setting String)) .empty [sampleQuery 1,sampleQuery 2]).cachedNumber = 2 := by
    decide +kernel
  refine ⟨number,?_⟩
  intro bounded
  have limit := bounded.bounded
  exact absurd limit (by decide)

end Mooon.DbProxy.Handler.CacheNumber

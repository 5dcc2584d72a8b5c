import Mooon.DbProxy.Bookings

/-! Whether the reports of `CDbProxyHandler` are true: the counters of each kind of call against the
calls that have succeeded and failed since the last report. -/
namespace Mooon.DbProxy.Handler.Report

theorem success_ne_failure {kind sort : Kind} : kind.success ≠ sort.failure := by
  cases kind <;> cases sort <;> decide

variable {kind sort : Kind}

theorem success_inj : kind.success = sort.success ↔ kind = sort := by
  cases kind <;> cases sort <;> decide

theorem failure_inj : kind.failure = sort.failure ↔ kind = sort := by
  cases kind <;> cases sort <;> decide

theorem amount_sql {sql : Changes} (own : ∀ entry ∈ sql, ofSql entry.1 = true) :
    Tally.amount sort.success sql = 0 ∧ Tally.amount sort.failure sql = 0 := by
  constructor
  · apply Tally.amount_of_ne
    intro entry mem same
    have stmt := own entry mem
    rw [same] at stmt
    cases sort <;> cases stmt
  · apply Tally.amount_of_ne
    intro entry mem same
    have stmt := own entry mem
    rw [same] at stmt
    cases sort <;> cases stmt

section
variable {counted : Prop} {kind : Kind} {changes : Changes} {succeeded failed : Bool}

section
variable (booking : Booking counted kind changes succeeded failed)
include booking

theorem Booking.failure_amount :
    (-1 ≤ Tally.amount sort.failure changes ∧
      Tally.amount sort.failure changes ≤ (decide (kind = sort) && failed).toInt) ∧
    (Tally.amount sort.failure changes = (decide (kind = sort) && failed).toInt ↔
      (kind = sort → counted)) := by
  cases booking with
  | succeeded own right =>
    simp [Tally.amount_append,Tally.amount_singleton,amount_sql own,success_ne_failure,right]
  | failed own right =>
    by_cases same : kind = sort
    · simp [Tally.amount_append,Tally.amount_singleton,amount_sql own,same,right]
    · simp [Tally.amount_append,Tally.amount_singleton,amount_sql own,failure_inj,same]
  | served right => simp [Tally.amount,right]
  | missed own wrong => by_cases same : kind = sort <;> simp [amount_sql own,same,wrong]
  | taken own wrong =>
    rcases own with rfl | rfl
    · by_cases same : kind = sort <;> simp [Tally.amount_singleton,success_ne_failure,same,wrong]
    · by_cases same : kind = sort <;> simp [Tally.amount_singleton,failure_inj,same,wrong]

theorem Booking.success_amount :
    (-1 ≤ Tally.amount sort.success changes ∧
      Tally.amount sort.success changes ≤ (decide (kind = sort) && succeeded).toInt) ∧
    (counted → Tally.amount sort.success changes = (decide (kind = sort) && succeeded).toInt) := by
  cases booking with
  | succeeded own right =>
    by_cases same : kind = sort
    · simp [Tally.amount_append,Tally.amount_singleton,amount_sql own,same]
    · simp [Tally.amount_append,Tally.amount_singleton,amount_sql own,success_inj,same]
  | failed own right =>
    simp [Tally.amount_append,Tally.amount_singleton,amount_sql own,success_ne_failure.symm]
  | served right => simp [Tally.amount]
  | missed own wrong => simp [amount_sql own]
  | taken own wrong =>
    rcases own with rfl | rfl
    · by_cases same : kind = sort <;> simp [Tally.amount_singleton,success_inj,same,wrong]
    · simp [Tally.amount_singleton,success_ne_failure.symm]

end

end

section
variable {Digest : Type} [DecidableEq Digest] {calls : List (Context Digest × Call)}

theorem changed_kind (few : calls.length < 2147483648) :
    Tally.changed reset (calls.flatMap fun call => counts call.1 call.2) kind.success =
        Tally.amount kind.success (calls.flatMap fun call => counts call.1 call.2) ∧
      Tally.changed reset (calls.flatMap fun call => counts call.1 call.2) kind.failure =
        Tally.amount kind.failure (calls.flatMap fun call => counts call.1 call.2) := by
  have inside : ∀ counter, (∀ call ∈ calls, -1 ≤ Tally.amount counter (counts call.1 call.2) ∧
      Tally.amount counter (counts call.1 call.2) ≤ 1) →
      Tally.changed reset (calls.flatMap fun call => counts call.1 call.2) counter =
        Tally.amount counter (calls.flatMap fun call => counts call.1 call.2) := by
    intro counter each
    obtain ⟨low,high⟩ := Tally.amount_flatMap_bounds each
    rw [Tally.changed_apply counter _ _ rfl]
    change Tally.wrap (0 + _) = _
    rw [Int.zero_add]
    apply Tally.wrap_eq
    · omega
    · omega
  have bit : ∀ flag : Bool, flag.toInt ≤ 1 := by decide
  constructor
  · apply inside
    intro call _
    obtain ⟨low,high⟩ := ((booked call.1 call.2).success_amount).1
    exact ⟨low,Int.le_trans high (bit _)⟩
  · apply inside
    intro call _
    obtain ⟨low,high⟩ := ((booked call.1 call.2).failure_amount).1
    exact ⟨low,Int.le_trans high (bit _)⟩

theorem changed_truthful_iff (few : calls.length < 2147483648) :
    Truthful calls (Tally.changed reset (calls.flatMap fun call => counts call.1 call.2)) ↔
      ∀ call ∈ calls, Counted call.1 call.2 := by
  have failures : ∀ kind : Kind, Tally.amount kind.failure (calls.flatMap fun call => counts call.1 call.2) =
      calls.countP (fun call => kindOf call.2 = kind && fails call.1 call.2) ↔
        ∀ call ∈ calls, kindOf call.2 = kind → Counted call.1 call.2 := by
    intro kind
    rw [Tally.amount_flatMap_iff fun call _ => ((booked call.1 call.2).failure_amount).1.2]
    exact forall₂_congr fun call _ => ((booked call.1 call.2).failure_amount).2
  constructor
  · intro truthful call mem
    have failure := (truthful (kindOf call.2)).2
    rw [(changed_kind few).2,failures] at failure
    exact failure call mem rfl
  · intro counted kind
    rw [(changed_kind few).1,(changed_kind few).2,failures]
    refine ⟨?_,fun call mem _ => counted call mem⟩
    rw [Tally.amount_flatMap_iff fun call _ => ((booked call.1 call.2).success_amount).1.2]
    exact fun call mem => ((booked call.1 call.2).success_amount).2 (counted call mem)

end

/-- The reports of a run with fewer than 2^31 calls between two of them, where no report stands for zeros. -/
theorem reports_truthful_iff {Digest : Type} [DecidableEq Digest]
    (intervals : List (List (Context Digest × Call)))
    (few : ∀ calls ∈ intervals, calls.length < 2147483648) :
    Run.Meets (fun counters calls => Truthful calls ((interval counters calls).2.getD reset))
      interval reset intervals ↔
      ∀ calls ∈ intervals, ∀ call ∈ calls, Counted call.1 call.2 := by
  rw [← Run.meets_forall (fun calls => ∀ call ∈ calls, Counted call.1 call.2) reset intervals]
  apply Run.meets_congr (· = reset)
  · exact fun counters calls _ _ _ => (onReport_eq _).1
  · intro counters calls member start
    rw [interval,(onReport_eq _).2,start]
    exact changed_truthful_iff (few calls member)
  · rfl

def sampleWrites : List (Context String × Call) :=
  [(sampleContext sampleTables .opened,.update2 0 "t" [("a","1")] []),
    (sampleContext sampleTables .opened,.update2 7 "t" [("a","1")] [])]

theorem reports_truthful_writes : (∀ calls ∈ [sampleWrites,[]], calls.length < 2147483648) ∧
      Run.Meets (fun counters calls => Truthful calls ((interval counters calls).2.getD reset)) interval reset
        [sampleWrites,[]] := by
  have few : ∀ calls ∈ [sampleWrites,[]], calls.length < 2147483648 := by
    simp [sampleWrites]
  refine ⟨few,(reports_truthful_iff _ few).mpr ?_⟩
  simp only [sampleWrites,List.forall_mem_cons]
  refine ⟨⟨?_,?_,List.forall_mem_nil _⟩,List.forall_mem_nil _,List.forall_mem_nil _⟩
  · exact fun info _ _ text _ _ => rfl
  · exact fun info _ _ text _ _ => rfl

def sampleQueries : List (Context String × Call) :=
  let context : Context String := sampleContext sampleTables .opened
  let unanswered : Context String := {context with environment.answer := .error ⟨"error",false⟩}
  [(unanswered,.query ⟨"s",0,[],1,-1⟩),(unanswered,.query2 ⟨0,"t",["a"],[],"","",1,-1⟩)]

theorem failures_subtracted : ((interval reset sampleQueries).2.getD reset .queryFailure = -1 ∧
      (interval reset sampleQueries).2.getD reset .query2Success = -1 ∧
      (interval reset sampleQueries).2.getD reset .query2Failure = 0) ∧
    ¬Truthful sampleQueries ((interval reset sampleQueries).2.getD reset) := by
  have subtracted : (interval reset sampleQueries).2.getD reset .queryFailure = -1 := by decide +kernel
  refine ⟨⟨subtracted,by decide +kernel,by decide +kernel⟩,?_⟩
  intro truthful
  have failures := (truthful .query).2
  change (interval reset sampleQueries).2.getD reset .queryFailure = _ at failures
  omega

end Mooon.DbProxy.Handler.Report

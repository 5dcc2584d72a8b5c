import Mooon.UniqId.Uniqueness

/-! The dates in the ids of an agent. The broken-down time is kept from one request to the next and
is made anew only for a request that is more than 30 seconds later than the one it was made for. -/
namespace Mooon.UniqId.Agent
open BitVec

abbrev Date := BitVec 7 × BitVec 4 × BitVec 5 × BitVec 5

def dateOf (tm : Tm) : Date :=
  (BitVec.ofInt 7 (tm.tmYear + 1900 - baseYear),BitVec.ofInt 4 (tm.tmMon + 1),BitVec.ofInt 5 tm.tmMday,
    BitVec.ofInt 5 tm.tmHour)

section
variable (value : UInt64) (localtime : TimeT → Option Tm)

def yearField : BitVec 7 := value.toBitVec.extractLsb' 14 7

def monthField : BitVec 4 := value.toBitVec.extractLsb' 21 4

def dayField : BitVec 5 := value.toBitVec.extractLsb' 25 5

def hourField : BitVec 5 := value.toBitVec.extractLsb' 30 5

def dateField : Date := (yearField value,monthField value,dayField value,hourField value)

def Calendar : Prop :=
  ∀ time tm, localtime time = some tm →
    (0 ≤ tm.tmMon ∧ tm.tmMon ≤ 11) ∧ (1 ≤ tm.tmMday ∧ tm.tmMday ≤ 31) ∧ (0 ≤ tm.tmHour ∧ tm.tmHour ≤ 23)

def Shown (tm : Tm) : Prop := 2016 ≤ tm.tmYear + 1900 ∧ tm.tmYear + 1900 ≤ 2143

instance (tm : Tm) : Decidable (Shown tm) := inferInstanceAs (Decidable (_ ∧ _))

def Truthful (time : TimeT) (value : UInt64) : Prop :=
  ∀ tm ∈ localtime time, Shown tm →
    ((yearField value).toNat : Int) + 2016 = tm.tmYear + 1900 ∧
      ((monthField value).toNat : Int) = tm.tmMon + 1 ∧
      ((dayField value).toNat : Int) = tm.tmMday ∧ ((hourField value).toNat : Int) = tm.tmHour
deriving Decidable

/-- The broken-down time that is kept is of the hour of the request, or the request makes a new one. -/
def Current (served : Served) (arrival : Arrival) : Prop :=
  ∀ agent ∈ served.process, ∀ tm ∈ localtime arrival.time, Shown tm →
    30 < arrival.time.toInt - agent.oldTime.toInt ∨ dateOf agent.oldTm = dateOf tm
deriving Decidable

end

theorem dateField_value (id : UniqID) : dateField id.value = (id.year,id.month,id.day,id.hour) := by
  have year : yearField id.value = id.year := by
    simp only [yearField,UniqID.value]
    rw [extractLsb'_append_eq_of_le (by decide),extractLsb'_append_eq_of_le (by decide),
      extractLsb'_append_eq_of_add_le (by decide)]
    simp
  have month : monthField id.value = id.month := by
    simp only [monthField,UniqID.value]
    rw [extractLsb'_append_eq_of_le (by decide),extractLsb'_append_eq_of_le (by decide),
      extractLsb'_append_eq_of_le (by decide),extractLsb'_append_eq_of_add_le (by decide)]
    simp
  have day : dayField id.value = id.day := by
    simp only [dayField,UniqID.value]
    rw [extractLsb'_append_eq_of_le (by decide),extractLsb'_append_eq_of_le (by decide),
      extractLsb'_append_eq_of_le (by decide),extractLsb'_append_eq_of_le (by decide),
      extractLsb'_append_eq_of_add_le (by decide)]
    simp
  have hour : hourField id.value = id.hour := by
    simp only [hourField,UniqID.value]
    rw [extractLsb'_append_eq_of_le (by decide),extractLsb'_append_eq_of_le (by decide),
      extractLsb'_append_eq_of_le (by decide),extractLsb'_append_eq_of_le (by decide),
      extractLsb'_append_eq_of_le (by decide),extractLsb'_append_eq_of_add_le (by decide)]
    simp
  rw [dateField,year,month,day,hour]

variable {localtime : TimeT → Option Tm}

theorem truthful_iff (calendar : Calendar localtime) (time : TimeT) (value : UInt64) :
    Truthful localtime time value ↔ ∀ tm ∈ localtime time, Shown tm → dateField value = dateOf tm := by
  refine forall_congr' fun tm => forall_congr' fun there => forall_congr' fun shown => ?_
  obtain ⟨⟨mon,mon'⟩,⟨mday,mday'⟩,⟨hour,hour'⟩⟩ := calendar time tm there
  obtain ⟨low,high⟩ := shown
  simp only [dateField,dateOf,Prod.mk.injEq,← toNat_inj,toNat_ofInt,baseYear]
  omega

variable {config : Config} {served : Served} {arrival : Arrival} {issue : Issue}

theorem issue_truthful_iff (calendar : Calendar localtime)
        (issued : (serve config localtime served arrival).2 = some issue) :
    Truthful localtime arrival.time issue.value ↔ Current localtime served arrival := by
  obtain ⟨agent,tm,running,answers,value⟩ := serve_iff.mp ⟨issue,issued,rfl⟩
  have date : dateField issue.value = dateOf tm := by
    rw [value,dateField_value]
    rfl
  have kept := answers.gives.kept
  rw [truthful_iff calendar,date]
  unfold keptTm at kept
  constructor
  · intro truthful other same tm' there shown
    cases running.symm.trans same
    split_ifs at kept with late
    · exact Or.inl late
    · cases kept
      exact Or.inr (truthful tm' there shown)
  · intro cur tm' there shown
    split_ifs at kept with late
    · rw [kept] at there
      cases there
      rfl
    · cases kept
      rcases cur agent running tm' there shown with late' | same
      · exact absurd late' late
      · exact same

/-- Every id of a run shows the local date of its request exactly when at every request that the
agent has an id for the broken-down time is made anew or is of the same hour. -/
theorem dates_truthful_iff (config : Config) (localtime : TimeT → Option Tm) (calendar : Calendar localtime)
    (agent : State) (arrivals : List Arrival) :
    Run.Meets (fun served arrival => ∀ issue ∈ (serve config localtime served arrival).2,
        Truthful localtime arrival.time issue.value) (serve config localtime) ⟨some agent,0,[]⟩ arrivals ↔
      Run.Meets (fun served arrival => (∃ agent tm, served.process = some agent ∧
          agent.Answers localtime config arrival tm) → Current localtime served arrival)
        (serve config localtime) ⟨some agent,0,[]⟩ arrivals := by
  apply Run.meets_congr (fun _ => True)
  · exact fun _ _ _ _ _ => trivial
  · intro served arrival _ _
    constructor
    · rintro truthful ⟨agent,tm,running,answers⟩
      obtain ⟨issue,issued,-⟩ := serve_iff.mpr ⟨agent,tm,running,answers,rfl⟩
      exact (issue_truthful_iff calendar issued).mp (truthful issue issued)
    · intro cur issue issued
      obtain ⟨agent,tm,running,answers,-⟩ := serve_iff.mp ⟨issue,issued,rfl⟩
      exact (issue_truthful_iff calendar issued).mpr (cur ⟨agent,tm,running,answers⟩)
  · trivial

def sampleHours (time : TimeT) : Option Tm :=
  if time = 1483228800 ∨ time = 1483228860 then some ⟨117,0,1,0⟩
  else if time = 1483232400 then some ⟨117,0,1,1⟩ else none

def sampleAt (time : UInt64) : Arrival := ⟨1483228800,request requestUniqId 0 time,true⟩

theorem sampleHours_calendar : Calendar sampleHours := by
  intro time tm there
  unfold sampleHours at there
  split_ifs at there
  · cases there
    decide
  · cases there
    decide

theorem dates_truthful_forwards : Calendar sampleHours ∧
    Run.Meets (fun served arrival => (∃ agent tm, served.process = some agent ∧
        agent.Answers sampleHours (sampleConfig 100000) arrival tm) →
      Current sampleHours served arrival) (serve (sampleConfig 100000) sampleHours) ⟨some sampleServer,0,[]⟩
      [sampleAt 1483228800,sampleAt 1483228860,sampleAt 0,sampleAt 1483232400] :=
  ⟨sampleHours_calendar,(dates_truthful_iff (sampleConfig 100000) sampleHours sampleHours_calendar
    sampleServer _).mp
    (by decide +kernel)⟩

theorem date_of_another_hour : Calendar sampleHours ∧
    ¬ Run.Meets (fun served arrival => ∀ issue ∈ (serve (sampleConfig 100000) sampleHours served arrival).2,
      Truthful sampleHours arrival.time issue.value) (serve (sampleConfig 100000) sampleHours)
      ⟨some sampleServer,0,[]⟩ [sampleAt 1483232400,sampleAt 1483228800] :=
  ⟨sampleHours_calendar,by decide +kernel⟩

end Mooon.UniqId.Agent

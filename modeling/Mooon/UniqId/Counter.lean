import Mooon.UniqId.Sequence

/-! The contract of `inc_sequence` over any calls of one process. Every number it returns is the
first of a range that ends before the counter wraps, and 0 stands for a failed store. The batch
branch forgets to exclude 0: it returns it whenever the counter is 0. -/
namespace Mooon.UniqId.Agent
open List Run

structure Call where
  deta : UInt16
  written : Bool
deriving DecidableEq, Repr

section
variable (config : Config) (agent : State) (call : Call)

def inc : State × UInt32 :=
  incSequence config call.deta call.written agent

def State.counter : Nat := agent.seqBlock.sequence.toNat

def Call.count : Nat := max call.deta.toNat 1

def Stored : Prop :=
  storeDue config agent = true → call.written = true
deriving Decidable

def handed : Range := ⟨(inc config agent call).2.toNat,call.count⟩

structure Fulfils (config : Config) (agent : State) (call : Call) : Prop where
  zero : (inc config agent call).2 = 0 ↔ ¬ Stored config agent call
  first : Stored config agent call → 1 ≤ (handed config agent call).first
  last : Stored config agent call → (handed config agent call).first + call.count - 1 ≤ 2^32 - 1
  next : Stored config agent call →
    (inc config agent call).1.counter = ((handed config agent call).first + call.count) % 2^32

def track (config : Config) : State → List Call → List Nat
  | _, [] => []
  | agent, call::rest =>
    if Stored config agent call then
      agent.counter :: (handed config agent call).first :: track config (inc config agent call).1 rest
    else agent.counter :: track config (inc config agent call).1 rest

/-- No later call hands out a number of this one, unless the counter has wrapped in between. -/
def Exclusive (after : List Call) : Prop :=
  ∀ between later rest, after = between ++ later::rest →
    let next := (inc config agent call).1
    let reached := Run.final (inc config) next between
    Stored config agent call → Stored config reached later →
    ((handed config agent call).first :: track config next (between++[later])).Pairwise (· ≤ ·) →
      Disjoint (handed config agent call).numbers (handed config reached later).numbers

def Contract (calls : List Call) : Prop :=
  ∀ before call after, calls = before ++ call::after →
    let now := Run.final (inc config) agent before
    Fulfils config now call ∧ Exclusive config now call after

def FromZero : Prop :=
  Stored config agent call ∧ agent.counter = 0 ∧ 2 ≤ call.deta.toNat

end

variable {config : Config} {agent : State} {call : Call}

theorem inc_stored (stored : Stored config agent call) :
    (inc config agent call).2 = (takeSequence call.deta agent.seqBlock.sequence).1 ∧
      (inc config agent call).1.seqBlock.sequence = (takeSequence call.deta agent.seqBlock.sequence).2 := by
  unfold inc
  rcases incSequence_cases config call.deta call.written agent with ⟨due,failed,_⟩ | ⟨base,_,taken⟩
  · rw [stored due] at failed
    cases failed
  · rw [taken]
    exact ⟨rfl,rfl⟩

theorem inc_failed (failed : ¬ Stored config agent call) : (inc config agent call).2 = 0 := by
  unfold inc
  rcases incSequence_cases config call.deta call.written agent with ⟨_,_,zero⟩ | ⟨base,origin,_⟩
  · rw [zero]
  · exfalso
    apply failed
    intro due
    rcases origin with ⟨fresh,_⟩ | ⟨_,written,_⟩
    · rw [fresh] at due
      cases due
    · exact written

theorem takeSequence_range {deta : UInt16} {seq : UInt32} :
    (takeSequence deta seq).1.toNat + max deta.toNat 1 ≤ 2^32 ∧
      (takeSequence deta seq).2.toNat = ((takeSequence deta seq).1.toNat + max deta.toNat 1) % 2^32 := by
  have bound := seq.toNat_lt
  have small := deta.toNat_lt
  unfold takeSequence
  split_ifs with single zero grows
  · have single : deta.toNat ≤ 1 := by simpa using UInt16.le_iff_toNat_le.mp single
    subst zero
    rw [Nat.max_eq_right single]
    decide
  · have single : deta.toNat ≤ 1 := by simpa using UInt16.le_iff_toNat_le.mp single
    rw [Nat.max_eq_right single]
    exact ⟨bound,rfl⟩
  · have batch : ¬ deta.toNat ≤ 1 := fun h => single (UInt16.le_iff_toNat_le.mpr (by simpa using h))
    rw [UInt32.lt_iff_toNat_lt,UInt32.toNat_add,UInt16.toNat_toUInt32] at grows
    dsimp only
    rw [UInt32.toNat_add,UInt16.toNat_toUInt32]
    omega
  · have batch : ¬ deta.toNat ≤ 1 := fun h => single (UInt16.le_iff_toNat_le.mpr (by simpa using h))
    rw [UInt32.toNat_add,UInt16.toNat_toUInt32,UInt32.toNat_one]
    omega

theorem takeSequence_eq_zero (deta : UInt16) (seq : UInt32) :
    (takeSequence deta seq).1 = 0 ↔ seq.toNat = 0 ∧ 2 ≤ deta.toNat := by
  by_cases pos : 0 < seq.toNat
  · have nonzero := takeSequence_ne_zero deta seq pos
    constructor
    · exact fun zero => absurd zero nonzero
    · exact fun ⟨zero,_⟩ => absurd zero (Nat.pos_iff_ne_zero.mp pos)
  · have zero : seq = 0 := UInt32.toNat_inj.mp (by simpa using pos)
    subst zero
    unfold takeSequence
    rw [if_pos (rfl : (0 : UInt32) = 0)]
    split_ifs with single grows
    · have single : deta.toNat ≤ 1 := by simpa using UInt16.le_iff_toNat_le.mp single
      exact iff_of_false (by decide) (fun both => absurd both.2 (by omega))
    · have batch : ¬ deta.toNat ≤ 1 := fun h => single (UInt16.le_iff_toNat_le.mpr (by simpa using h))
      exact iff_of_true rfl ⟨rfl,by omega⟩
    · have batch : ¬ deta.toNat ≤ 1 := fun h => single (UInt16.le_iff_toNat_le.mpr (by simpa using h))
      exfalso
      apply grows
      rw [UInt32.lt_iff_toNat_lt,UInt32.toNat_add,UInt16.toNat_toUInt32]
      have small := deta.toNat_lt
      omega

theorem handed_range (stored : Stored config agent call) :
    (handed config agent call).first + call.count ≤ 2^32 ∧
      (inc config agent call).1.counter = ((handed config agent call).first + call.count) % 2^32 := by
  obtain ⟨res,counter⟩ := inc_stored stored
  rw [handed,State.counter,res,counter]
  exact takeSequence_range

variable (call : Call)

theorem Call.count_lt : call.count < 2^16 := by
  have small := call.deta.toNat_lt
  unfold Call.count
  omega

theorem fulfils_iff {call : Call} : Fulfils config agent call ↔ ¬ FromZero config agent call := by
  constructor
  · rintro fulfils ⟨stored,zero,batch⟩
    apply fulfils.zero.mp _ stored
    rw [(inc_stored stored).1]
    exact (takeSequence_eq_zero _ _).mpr ⟨zero,batch⟩
  · intro regular
    have nonzero : Stored config agent call → (inc config agent call).2 ≠ 0 := by
      intro stored zero
      rw [(inc_stored stored).1] at zero
      exact regular ⟨stored,(takeSequence_eq_zero _ _).mp zero⟩
    refine ⟨⟨fun zero stored => nonzero stored zero,inc_failed⟩,?_,?_,?_⟩
    · intro stored
      have pos : (inc config agent call).2.toNat ≠ 0 := by
        intro zero
        exact nonzero stored (UInt32.toNat_inj.mp zero)
      exact Nat.one_le_iff_ne_zero.mpr pos
    · intro stored
      have := (handed_range stored).1
      omega
    · exact fun stored => (handed_range stored).2

theorem track_head {call : Call} {rest : List Call} : agent.counter ∈ track config agent (call::rest) := by
  unfold track
  split_ifs
  · exact mem_cons_self
  · exact mem_cons_self

theorem track_last (agent : State) (between : List Call) (later : Call)
    (stored : Stored config (final (inc config) agent between) later) :
    (handed config (final (inc config) agent between) later).first ∈
      track config agent (between++[later]) := by
  induction between generalizing agent with
  | nil =>
    have stored : Stored config agent later := stored
    rw [nil_append,track,if_pos stored]
    simp
  | cons call rest ih =>
    rw [cons_append,track]
    have inside := ih (inc config agent call).1 stored
    split_ifs
    · exact mem_cons_of_mem _ (mem_cons_of_mem _ inside)
    · exact mem_cons_of_mem _ inside

theorem track_counter_le {calls : List Call} {number : Nat}
    (climbs : (track config agent calls).Pairwise (· ≤ ·)) (mem : number ∈ track config agent calls) :
    agent.counter ≤ number := by
  cases calls with
  | nil => cases mem
  | cons call rest =>
    unfold track at climbs mem
    split_ifs at climbs mem with stored
    · rcases mem_cons.mp mem with rfl | later
      · exact le_rfl
      · exact (pairwise_cons.mp climbs).1 number later
    · rcases mem_cons.mp mem with rfl | later
      · exact le_rfl
      · exact (pairwise_cons.mp climbs).1 number later

theorem exclusive (config : Config) (agent : State) (call : Call) (after : List Call) :
    Exclusive config agent call after := by
  intro between later rest _ next reached stored stored' climbs
  obtain ⟨low,climbs⟩ := pairwise_cons.mp climbs
  obtain ⟨ends,behind⟩ := handed_range stored
  have above : next.counter ≤ (handed config reached later).first :=
    track_counter_le climbs (track_last next between later stored')
  have notBelow : (handed config agent call).first ≤ next.counter := by
    apply low
    cases between with
    | nil | cons first others => exact track_head
  have small := call.count_lt
  have climbed : (handed config agent call).first + call.count ≤ (handed config reached later).first := by
    rw [behind] at notBelow above
    omega
  rw [Finset.disjoint_left]
  intro number here there
  have below := (Finset.mem_Ico.mp here).2
  have above := (Finset.mem_Ico.mp there).1
  exact absurd (below.trans_le climbed) (Nat.not_lt.mpr above)

/-- All calls of a run keep the contract exactly when no batch is taken while the counter is 0. -/
theorem inc_contract_iff (config : Config) (agent : State) (calls : List Call) : Contract config agent calls ↔
      Run.Meets (fun agent call => ¬ FromZero config agent call) (inc config) agent calls := by
  rw [meets_iff]
  constructor
  · intro contract before call after split
    exact fulfils_iff.mp (contract before call after split).1
  · intro regular before call after split
    exact ⟨fulfils_iff.mpr (regular before call after split),exclusive config _ call after⟩

def sampleLast : State :=
  (restoreSequence (sampleConfig 1) [] true
    (.start (.block (SeqBlock.updateMagic ⟨1,7,4294967293,1000,0⟩)) 1000)).1

theorem inc_returns_zero : outputs (inc (sampleConfig 1)) sampleLast [⟨1,true⟩,⟨2,true⟩] = [4294967295,0] ∧
    ¬ Contract (sampleConfig 1) sampleLast [⟨1,true⟩,⟨2,true⟩] := by
  refine ⟨by decide,?_⟩
  intro contract
  have fulfils := (contract [⟨1,true⟩] ⟨2,true⟩ [] rfl).1
  exact fulfils.zero.mp (by decide) (fun _ => rfl)

end Mooon.UniqId.Agent

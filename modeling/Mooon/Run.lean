import Mathlib.Data.List.Basic
import Mathlib.Order.Basic

/-! Runs of a deterministic step function, for components that answer each
action with an output. A run is the list of its actions; nondeterminism of the
environment is part of the action. Conditions on a run are conditions on the
state before each step. -/
namespace Mooon.Run
open List
variable {State Action Output : Type}

def final (step : State → Action → State × Output) (initial : State) (actions : List Action) : State :=
  actions.foldl (fun state action => (step state action).1) initial

def outputs (step : State → Action → State × Output) : State → List Action → List Output
  | _, [] => []
  | state, action::rest => (step state action).2 :: outputs step (step state action).1 rest

/-- Every step of the run meets a condition on the state before it. -/
def Meets (condition : State → Action → Prop) (step : State → Action → State × Output) :
    State → List Action → Prop
  | _, [] => True
  | state, action::rest => condition state action ∧ Meets condition step (step state action).1 rest

instance decidableMeets (condition : State → Action → Prop)
    [∀ state action, Decidable (condition state action)]
    (step : State → Action → State × Output) :
    (initial : State) → (actions : List Action) → Decidable (Meets condition step initial actions)
  | _, [] => isTrue trivial
  | initial, action::rest =>
    have := decidableMeets condition step (step initial action).1 rest
    inferInstanceAs (Decidable (condition initial action ∧ Meets condition step (step initial action).1 rest))

section
variable (step : State → Action → State × Output) (cond : State → Action → Prop) (initial : State)

@[simp] theorem final_nil : final step initial [] = initial := rfl

variable (act : Action) (rest : List Action)

@[simp] theorem final_cons :
    final step initial (act::rest) = final step (step initial act).1 rest := rfl

@[simp] theorem outputs_nil : outputs step initial [] = [] := rfl

@[simp] theorem outputs_cons :
    outputs step initial (act::rest) =
      (step initial act).2 :: outputs step (step initial act).1 rest := rfl

variable (first second : List Action)

theorem final_append : final step initial (first++second) = final step (final step initial first) second :=
  foldl_append

theorem outputs_append : outputs step initial (first++second) =
      outputs step initial first ++ outputs step (final step initial first) second := by
  induction first generalizing initial with
  | nil => rfl
  | cons act rest ih => simp [ih]

variable {step cond} (acts : List Action)

theorem meets_iff : Meets cond step initial acts ↔
      ∀ before act after, acts = before ++ act::after → cond (final step initial before) act := by
  induction acts generalizing initial with
  | nil =>
    refine iff_of_true trivial ?_
    intro before act after split
    simp at split
  | cons first rest ih =>
    rw [Meets,ih]
    constructor
    · rintro ⟨met,later⟩ before act after split
      cases before with
      | nil =>
        obtain ⟨rfl,-⟩ := cons.inj split
        exact met
      | cons other before =>
        obtain ⟨rfl,same⟩ := cons.inj split
        exact later before act after same
    · intro every
      refine ⟨every [] first rest rfl,?_⟩
      intro before act after split
      apply every (first::before) act after
      rw [split,cons_append]

theorem meets_take (met : Meets cond step initial (first++second)) : Meets cond step initial first := by
  induction first generalizing initial with
  | nil => trivial
  | cons act rest ih => exact ⟨met.1,ih _ met.2⟩

variable (allowed : Action → Prop)

theorem meets_forall (initial : State) (acts : List Action) :
    Meets (fun _ act => allowed act) step initial acts ↔ ∀ act ∈ acts, allowed act := by
  induction acts generalizing initial with
  | nil => exact iff_of_true trivial (forall_mem_nil _)
  | cons act rest ih => rw [Meets,ih,forall_mem_cons]

theorem meets_and (initial : State) (acts : List Action)
    (every : ∀ act ∈ acts, allowed act) (met : Meets cond step initial acts) :
    Meets (fun state act => allowed act ∧ cond state act) step initial acts := by
  induction acts generalizing initial with
  | nil => trivial
  | cons act rest ih =>
    obtain ⟨first,later⟩ := forall_mem_cons.mp every
    exact ⟨⟨first,met.1⟩,ih _ later met.2⟩

variable (holds : State → Prop) {other : State → Action → Prop}

/-- Conditions that agree wherever an invariant holds that they preserve are met by the same runs. -/
theorem meets_congr (initial : State) (acts : List Action)
    (preserved : ∀ state, ∀ act ∈ acts, holds state → cond state act → holds (step state act).1)
    (same : ∀ state, ∀ act ∈ acts, holds state → (cond state act ↔ other state act))
    (start : holds initial) : Meets cond step initial acts ↔ Meets other step initial acts := by
  induction acts generalizing initial with
  | nil => exact Iff.rfl
  | cons act rest ih =>
    have agree := same initial act mem_cons_self start
    have later : cond initial act →
        (Meets cond step (step initial act).1 rest ↔ Meets other step (step initial act).1 rest) := by
      intro first
      apply ih
      · exact fun state next mem => preserved state next (mem_cons_of_mem _ mem)
      · exact fun state next mem => same state next (mem_cons_of_mem _ mem)
      · exact preserved initial act mem_cons_self start first
    constructor
    · exact fun met => ⟨agree.mp met.1,(later met.1).mp met.2⟩
    · exact fun met => ⟨agree.mpr met.1,(later (agree.mpr met.1)).mpr met.2⟩

section
variable (preserved : ∀ state act, holds state → cond state act → holds (step state act).1)
include preserved

theorem meets_of_invariant
    (implied : ∀ state act, holds state → cond state act → other state act) (initial : State)
    (acts : List Action) (start : holds initial) (met : Meets cond step initial acts) :
    Meets other step initial acts := by
  induction acts generalizing initial with
  | nil => trivial
  | cons act rest ih => exact ⟨implied _ _ start met.1,ih _ (preserved _ _ start met.1) met.2⟩

/-- What every step preserves under the condition holds after every run that meets it. -/
theorem invariant
    (initial : State) (acts : List Action) (start : holds initial)
    (met : Meets cond step initial acts) : holds (final step initial acts) := by
  induction acts generalizing initial with
  | nil => exact start
  | cons act rest ih => exact ih _ (preserved _ _ start met.1) met.2

end

/-- A step function that follows another one in each step follows it through every run. -/
theorem follows {Other : Type} {follower : Other → Action → Other × Output} (related : State → Other → Prop)
    (each : ∀ state other act, related state other → cond state act →
      related (step state act).1 (follower other act).1 ∧ (follower other act).2 = (step state act).2)
    (initial : State) (other : Other) (acts : List Action) (start : related initial other)
    (met : Meets cond step initial acts) : related (final step initial acts) (final follower other acts) ∧
      outputs follower other acts = outputs step initial acts := by
  induction acts generalizing initial other with
  | nil => exact ⟨start,rfl⟩
  | cons act rest ih =>
    obtain ⟨next,same⟩ := each initial other act start met.1
    obtain ⟨ends,answers⟩ := ih _ _ next met.2
    refine ⟨ends,?_⟩
    rw [outputs_cons,outputs_cons,same,answers]

theorem always (initial : State) (acts : List Action)
    (preserved : ∀ state, ∀ act ∈ acts, holds state → holds (step state act).1)
    (start : holds initial) : holds (final step initial acts) :=
  invariant holds (fun state act now mem => preserved state act mem now) initial acts start
    ((meets_forall (· ∈ acts) initial acts).mpr fun _ mem => mem)

theorem outputs_all (good : Output → Prop)
    (preserved : ∀ state act, holds state → cond state act → holds (step state act).1)
    (replied : ∀ state act, holds state → cond state act → good (step state act).2)
    (initial : State) (acts : List Action) (start : holds initial)
    (met : Meets cond step initial acts) : ∀ output ∈ outputs step initial acts, good output := by
  induction acts generalizing initial with
  | nil => simp
  | cons act rest ih =>
    intro output mem
    rcases mem_cons.mp mem with rfl | later
    · exact replied _ _ start met.1
    · exact ih _ (preserved _ _ start met.1) met.2 output later

/-- Outputs that each lie between the state's position before and after their step
are ordered along the whole run. -/
theorem outputs_pairwise {Position : Type} [Preorder Position] (pos : State → Position)
    (between : Position → Position → Output → Prop) (before : Output → Output → Prop)
    (preserved : ∀ state act, holds state → cond state act → holds (step state act).1)
    (forward : ∀ state act, holds state → cond state act → pos state ≤ pos (step state act).1)
    (inside : ∀ state act, holds state → cond state act →
      between (pos state) (pos (step state act).1) (step state act).2)
    (ordered : ∀ a b c d x y, between a b x → b ≤ c → between c d y → before x y)
    (initial : State) (acts : List Action) (start : holds initial)
    (met : Meets cond step initial acts) : (outputs step initial acts).Pairwise before := by
  have located (initial : State) (acts : List Action) (start : holds initial)
      (met : Meets cond step initial acts) : ∀ output ∈ outputs step initial acts,
        ∃ low high, pos initial ≤ low ∧ between low high output := by
    refine outputs_all (fun state => holds state ∧ pos initial ≤ pos state) _ ?_ ?_ initial acts
      ⟨start,le_rfl⟩ met
    · exact fun state act now met =>
        ⟨preserved state act now.1 met,now.2.trans (forward state act now.1 met)⟩
    · exact fun state act now met => ⟨_,_,now.2,inside state act now.1 met⟩
  induction acts generalizing initial with
  | nil => simp
  | cons act rest ih =>
    refine pairwise_cons.mpr ⟨?_,ih _ (preserved _ _ start met.1) met.2⟩
    intro output later
    obtain ⟨low,high,reached,place⟩ := located _ _ (preserved _ _ start met.1) met.2 output later
    exact ordered _ _ _ _ _ _ (inside _ _ start met.1) reached place

end

section
variable {step : State → Action → State × Output} (initial : State) (acts : List Action)

theorem exists_of_mem_zip {act : Action} {output : Output}
    (mem : (act,output) ∈ acts.zip (outputs step initial acts)) :
    ∃ state, (step state act).2 = output := by
  induction acts generalizing initial with
  | nil => cases mem
  | cons first rest ih =>
    rcases mem_cons.mp mem with same | later
    · cases same
      exact ⟨initial,rfl⟩
    · exact ih _ later

/-- What is held and what is put in leave in this order, in a run as in each of its steps. -/
theorem passes {Elem : Type} (held : State → List Elem) (added : Action → Output → List Elem)
    (taken : Output → List Elem) (each : ∀ state act,
      held state ++ added act (step state act).2 = taken (step state act).2 ++ held (step state act).1) :
    held initial ++ (acts.zip (outputs step initial acts)).flatMap (fun call => added call.1 call.2) =
      (outputs step initial acts).flatMap taken ++ held (final step initial acts) := by
  induction acts generalizing initial with
  | nil => exact append_nil _
  | cons act rest ih =>
    rw [outputs_cons,final_cons,zip_cons_cons,flatMap_cons,flatMap_cons,← append_assoc,each,
      append_assoc,ih,append_assoc]

end

/-- One of the actions leaves `done`, and each before it an output that says the run goes on. -/
def Ends (step : State → Action → State × Output) (going : Output → Prop) (done : State × Output → Prop) :
    State → List Action → Prop
  | _, [] => False
  | state, action::rest =>
    done (step state action) ∨ going (step state action).2 ∧ Ends step going done (step state action).1 rest

section
variable {step : State → Action → State × Output} {going : Output → Prop} {done : State × Output → Prop}
  (counted : Action → Bool) (holds : Nat → State → Prop)
  (each : ∀ count state action, holds count state →
    going (step state action).2 ∧ holds (count + if counted action then 1 else 0) (step state action).1 ∨
      done (step state action))
include each

/-- When each step goes on or is the last, so does a run. The invariant counts the steps of one kind. -/
theorem stays_or_ends (count : Nat) (initial : State) (acts : List Action) (start : holds count initial) :
    (∀ output ∈ outputs step initial acts, going output) ∧
        holds (count + acts.countP counted) (final step initial acts) ∨
          Ends step going done initial acts := by
  induction acts generalizing count initial with
  | nil => exact .inl ⟨fun _ mem => absurd mem not_mem_nil,start⟩
  | cons act rest ih =>
    rcases each count initial act start with ⟨goes,next⟩ | ended
    · rcases ih _ _ next with ⟨all,reached⟩ | ended
      · refine .inl ⟨forall_mem_cons.mpr ⟨goes,all⟩,?_⟩
        rw [countP_cons,Nat.add_comm (rest.countP counted),← Nat.add_assoc]
        exact reached
      · exact .inr (.inr ⟨goes,ended⟩)
    · exact .inr (.inl ended)

theorem stays_or_ends_first (initial : State)
    (first : ∀ act, going (step initial act).2 ∧ holds (if counted act then 1 else 0) (step initial act).1 ∨
      done (step initial act)) (acts : List Action) (some : acts ≠ []) :
    (∀ output ∈ outputs step initial acts, going output) ∧
        holds (acts.countP counted) (final step initial acts) ∨ Ends step going done initial acts := by
  obtain ⟨act,rest,rfl⟩ := exists_cons_of_ne_nil some
  rcases first act with ⟨goes,next⟩ | ended
  · rcases stays_or_ends counted holds each _ _ rest next with ⟨all,reached⟩ | ended
    · refine .inl ⟨forall_mem_cons.mpr ⟨goes,all⟩,?_⟩
      rw [countP_cons,Nat.add_comm]
      exact reached
    · exact .inr (.inr ⟨goes,ended⟩)
  · exact .inr (.inl ended)

omit each in
theorem not_ends (holds : State → Prop)
    (each : ∀ state act, holds state → holds (step state act).1 ∧ ¬done (step state act))
    (initial : State) (acts : List Action) (start : holds initial) : ¬Ends step going done initial acts := by
  induction acts generalizing initial with
  | nil => exact not_false
  | cons act rest ih =>
    obtain ⟨next,goes⟩ := each initial act start
    rintro (ended | ⟨_,ended⟩)
    · exact goes ended
    · exact ih _ next ended

end

end Mooon.Run

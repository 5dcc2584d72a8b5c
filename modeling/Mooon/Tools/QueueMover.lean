import Mooon.Run

/-! `redis_queue_mover`: the thread that moves the elements of one redis list to another, in
batches. A list has its left end first; both queues are pushed on the left and popped on the right.
A command that throws has no effect. -/
namespace Mooon.QueueMover
open List Run

/-- Where the thread is: at the test of the outer loop, at the test and in the body of the loop that
fetches, behind it, in the loop that pushes. -/
inductive Phase where
  | looping
  | testing (k : Nat)
  | fetching (k : Nat)
  | fetched
  | pushing
  | exited
deriving DecidableEq

variable {Value : Type}

def lpush (values : List Value) (list : List Value) : List Value :=
  values.foldl (fun list value => value::list) list

def rpop (list : List Value) : Option (Value × List Value) :=
  list.getLast?.map fun value => (value,list.dropLast)

/-- `arrived`, `taken`, `appended` and `consumed` are not in the source: what was pushed to the
source, popped from it, pushed to the destination and popped from it, in this order each. -/
structure State (Value : Type) where
  stop : Bool
  phase : Phase
  values : List Value
  src : List Value
  dst : List Value
  arrived : List Value
  taken : List Value
  appended : List Value
  consumed : List Value
deriving DecidableEq

def start (src dst : List Value) : State Value := ⟨false,.looping,[],src,dst,[],[],[],[]⟩

inductive Action (Value : Type) where
  | thread (throws : Bool)
  | produce (value : Value)
  | consume
  | stop
deriving DecidableEq

def fetch (throws : Bool) (k : Nat) (state : State Value) : State Value :=
  if throws then {state with phase := .testing (k+1)}
  else
    match rpop state.src with
    | none => {state with phase := .fetched}
    | some (value,src) =>
      {state with
        phase := .testing (k+1)
        values := state.values ++ [value]
        src := src
        taken := state.taken ++ [value]}

-- the values stay in the vector until the next round clears it
def push (throws : Bool) (state : State Value) : State Value :=
  if throws then state
  else
    {state with
      phase := .looping
      dst := lpush state.values state.dst
      appended := state.appended ++ state.values}

def moveThreadProc (batch : Nat) (throws : Bool) (state : State Value) : State Value :=
  match state.phase with
  | .looping => if state.stop then
    {state with phase := .exited} else {state with phase := .testing 0, values := []}
  | .testing k => if !state.stop && k < batch then
    {state with phase := .fetching k} else {state with phase := .fetched}
  | .fetching k => fetch throws k state
  | .fetched => if state.values.isEmpty then
    {state with phase := .looping} else {state with phase := .pushing}
  | .pushing => push throws state
  | .exited => state

def step (batch : Nat) (state : State Value) : Action Value → State Value × Unit
  | .thread throws => (moveThreadProc batch throws state,())
  | .produce value => ({state with src := lpush [value] state.src, arrived := state.arrived ++ [value]},())
  | .consume =>
    match rpop state.dst with
    | none => (state,())
    | some (value,dst) => ({state with dst := dst, consumed := state.consumed ++ [value]},())
  | .stop => ({state with stop := true},())

def State.batch (state : State Value) : List Value :=
  match state.phase with
  | .looping | .exited => []
  | _ => state.values

@[simp] theorem lpush_reverse {values list : List Value} :
    (lpush values list).reverse = list.reverse ++ values := by
  induction values generalizing list with
  | nil => simp [lpush]
  | cons value values ih =>
    have next : lpush (value::values) list = lpush values (value::list) := rfl
    rw [next,ih,reverse_cons,append_assoc,singleton_append]

theorem rpop_some {list rest : List Value} {value : Value} (popped : rpop list = some (value,rest)) :
    list.reverse = value::rest.reverse := by
  obtain ⟨last,found,same⟩ := Option.map_eq_some_iff.mp popped
  cases same
  obtain ⟨before,rfl⟩ := List.getLast?_eq_some_iff.mp found
  simp

/-- In right-pop order: the source is what was taken and what is left, what was taken is in the
destination or in the batch, and the destination is what it had and what was appended. -/
structure Conserved (src dst : List Value) (state : State Value) : Prop where
  source : state.taken ++ state.src.reverse = src.reverse ++ state.arrived
  batch : state.taken = state.appended ++ state.batch
  destination : state.consumed ++ state.dst.reverse = dst.reverse ++ state.appended

section
variable {src dst : List Value} {state : State Value} {throws : Bool}

theorem fetch_conserved {k : Nat} (phase : state.phase = .fetching k)
    (kept : Conserved src dst state) : Conserved src dst (fetch throws k state) := by
  obtain ⟨source,batch,destination⟩ := kept
  rw [State.batch,phase] at batch
  unfold fetch
  split
  · exact ⟨source,batch,destination⟩
  · cases popped : rpop state.src with
    | none => exact ⟨source,batch,destination⟩
    | some res =>
      obtain ⟨value,rest⟩ := res
      refine ⟨?_,?_,destination⟩
      · rw [rpop_some popped] at source
        rw [append_assoc]
        exact source
      · change state.taken ++ [value] = state.appended ++ (state.values ++ [value])
        rw [batch,append_assoc]

theorem push_conserved (phase : state.phase = .pushing) (kept : Conserved src dst state) :
    Conserved src dst (push throws state) := by
  unfold push
  split
  · exact kept
  · obtain ⟨source,batch,destination⟩ := kept
    rw [State.batch,phase] at batch
    refine ⟨source,?_,?_⟩
    · rw [State.batch,append_nil]
      exact batch
    · rw [lpush_reverse,← append_assoc,destination,append_assoc]

theorem moveThreadProc_conserved {size : Nat} (conserved : Conserved src dst state) :
    Conserved src dst (moveThreadProc size throws state) := by
  have kept := conserved.batch
  unfold moveThreadProc
  cases phase : state.phase with
  | looping | testing k =>
    rw [State.batch,phase] at kept
    dsimp only
    split
    · exact ⟨conserved.source,kept,conserved.destination⟩
    · exact ⟨conserved.source,kept,conserved.destination⟩
  | fetching k => exact fetch_conserved phase conserved
  | fetched =>
    rw [State.batch,phase] at kept
    dsimp only
    split_ifs with none
    · rw [List.isEmpty_iff.mp none] at kept
      exact ⟨conserved.source,kept,conserved.destination⟩
    · exact ⟨conserved.source,kept,conserved.destination⟩
  | pushing => exact push_conserved phase conserved
  | exited => exact conserved

theorem step_conserved {size : Nat} {act : Action Value} (kept : Conserved src dst state) :
    Conserved src dst (step size state act).1 := by
  cases act with
  | thread throws => exact moveThreadProc_conserved kept
  | produce value =>
    refine ⟨?_,kept.batch,kept.destination⟩
    change state.taken ++ (lpush [value] state.src).reverse = src.reverse ++ (state.arrived ++ [value])
    rw [lpush_reverse,← append_assoc,kept.source,append_assoc]
  | consume =>
    unfold step
    cases popped : rpop state.dst with
    | none => exact kept
    | some res =>
      refine ⟨kept.source,kept.batch,?_⟩
      have destination := kept.destination
      rw [rpop_some popped] at destination
      rw [append_assoc]
      exact destination
  | stop => exact ⟨kept.source,kept.batch,kept.destination⟩

end

/-- Whatever commands throw and whenever the stop comes, the mover loses, duplicates and reorders
nothing, and exits with an empty batch. -/
theorem mover_conserves (size : Nat) (src dst : List Value) (actions : List (Action Value)) :
    let state := final (step size) (start src dst) actions
    Conserved src dst state ∧ (state.phase = .exited → state.batch = [] ∧ state.taken = state.appended) := by
  have conserved : Conserved src dst (final (step size) (start src dst) actions) := by
    apply always (Conserved src dst)
    · exact fun state action _ conserved => step_conserved conserved
    · exact ⟨by simp [start],rfl,by simp [start]⟩
  refine ⟨conserved,?_⟩
  intro exited
  have empty : (final (step size) (start src dst) actions).batch = [] := by rw [State.batch,exited]
  refine ⟨empty,?_⟩
  rw [conserved.batch,empty,append_nil]

-- one element is fetched, the next fetch fails, the stop comes, a push fails and the retry succeeds
example : final (step 2) (start [1,2] [9]) [.thread false,.thread false,.thread false,.produce 7,
  .thread false,
      .thread true,.stop,.thread false,.thread false,.thread true,.thread false,.thread false] =
    (⟨true,.exited,[2],[7,1],[2,9],[7],[2],[2],[]⟩ : State Nat) := by
  decide

end Mooon.QueueMover

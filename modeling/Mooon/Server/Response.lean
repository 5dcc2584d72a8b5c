import Mooon.Net.DataChannel
import Mooon.Server.WorkThread

/-! The transmission of a response by `CWaiter::do_handle_epoll_send`. The packet handler is any
implementation of its interface with the inherited `move_response_offset`; what it keeps beside the
context is `Own`. Setting `TCP_CORK` around `send_file` succeeds. -/
namespace Mooon.Server.Response
open Net.DataChannel (Bytes Syscall Write)
open List Option

structure ResponseContext where
  isResponseFd : Bool
  responseSize : Nat
  responseOffset : Nat
  /-- The file of the descriptor or the buffer, `none` for a null pointer. -/
  response : Option Bytes

structure Indicator where
  reset : Bool
  threadIndex : UInt16
  epollEvents : Nat

structure HandOverParam where
  epollEvents : Nat
  threadIndex : UInt16

inductive HandleResult where
  | handleError
  | handleFinish
  | handleContinue
  | handleRelease
  | handleClose

structure Handler (Own : Type) where
  own : Own
  responseContext : ResponseContext

structure PacketHandler (Own : Type) where
  beforeResponse : Handler Own → Handler Own
  onResponseCompleted : Indicator → Handler Own → Handler Own × Indicator × HandleResult
  reset : Handler Own → Handler Own

/-- What can be seen of a response: the calls of the handler and the bytes that leave. -/
inductive Call where
  | beforeResponse
  | transmitted (bytes : Bytes)
  | onResponseCompleted
deriving DecidableEq

structure Waiter (Own : Type) where
  isSending : Bool
  handler : Handler Own
  calls : List Call

inductive Answer where
  | returned (event : EpollEvent) (handOver : HandOverParam)
  | thrown (errcode : Int)
  /-- The buffer is null, and the result of a send that was not made is used. -/
  | undefined

section
variable {Own : Type}

def Handler.moveResponseOffset (handler : Handler Own) (offset : Nat) : Handler Own :=
  {handler with
    responseContext := {handler.responseContext with
      responseOffset := handler.responseContext.responseOffset + offset}}

def ResponseContext.send (context : ResponseContext)
    (results : List Syscall) : Option (Except Int (Option Bytes)) :=
  let count := context.responseSize - context.responseOffset
  match context.response with
  | none => none
  | some content =>
    if context.isResponseFd then some (Net.DataChannel.sendFile content context.responseOffset count results)
    else some (Net.DataChannel.send ((content.drop context.responseOffset).take count) results)

variable (packetHandler : PacketHandler Own) (threadIndex : UInt16)

def complete (waiter : Waiter Own) : Waiter Own × Answer :=
  let (handler,indicator,result) :=
    packetHandler.onResponseCompleted ⟨true,threadIndex,epollIn⟩ waiter.handler
  let handler := if indicator.reset then packetHandler.reset handler else handler
  let waiter := ⟨false,handler,waiter.calls ++ [.onResponseCompleted]⟩
  match result with
  | .handleRelease => (waiter,.returned .release ⟨indicator.epollEvents,indicator.threadIndex⟩)
  | .handleContinue => (waiter,.returned (.none indicator.epollEvents) ⟨indicator.epollEvents,threadIndex⟩)
  | _ => (waiter,.returned .close ⟨epollIn,threadIndex⟩)

def beginSending (waiter : Waiter Own) : Waiter Own :=
  if waiter.isSending then waiter
  else ⟨true,packetHandler.beforeResponse waiter.handler,waiter.calls ++ [.beforeResponse]⟩

def Waiter.sent (waiter : Waiter Own) (bytes : Bytes) : Waiter Own :=
  ⟨waiter.isSending,waiter.handler.moveResponseOffset bytes.length,waiter.calls ++ [.transmitted bytes]⟩

def sendResponse (waiter : Waiter Own) (results : List Syscall) : Waiter Own × Answer :=
  let context := waiter.handler.responseContext
  -- a size below the offset is logged, and the response ends
  if context.responseSize ≤ context.responseOffset then complete packetHandler threadIndex waiter
  else
    match context.send results with
    | none => (waiter,.undefined)
    | some (.error errcode) => (waiter,.thrown errcode)
    | some (.ok none) => (waiter,.returned .write ⟨epollIn,threadIndex⟩)
    | some (.ok (some bytes)) =>
      let waiter := waiter.sent bytes
      let context := waiter.handler.responseContext
      if context.responseSize > context.responseOffset then (waiter,.returned .write ⟨epollIn,threadIndex⟩)
      else complete packetHandler threadIndex waiter

def doHandleEpollSend (waiter : Waiter Own) (results : List Syscall) : Waiter Own × Answer :=
  sendResponse packetHandler threadIndex (beginSending packetHandler waiter) results

def step (waiter : Waiter Own) (write : Write) : Waiter Own × Answer :=
  doHandleEpollSend packetHandler threadIndex waiter write.results

end

def ResponseContext.rest (context : ResponseContext) : Bytes :=
  ((context.response.getD []).take context.responseSize).drop context.responseOffset

/-- The offset is within the response, and where bytes are left it has all that its size says. -/
structure ResponseContext.Backed (context : ResponseContext) : Prop where
  within : context.responseOffset ≤ context.responseSize
  content : context.responseOffset < context.responseSize →
    ∃ content, context.response = some content ∧ context.responseSize ≤ content.length

def ResponseContext.moved (context : ResponseContext) (sent : Nat) : ResponseContext :=
  {context with responseOffset := context.responseOffset + sent}

variable {context : ResponseContext}

theorem length_rest (backed : context.Backed) :
    context.rest.length = context.responseSize - context.responseOffset := by
  by_cases left : context.responseOffset < context.responseSize
  · obtain ⟨content,there,size⟩ := backed.content left
    rw [ResponseContext.rest,there,getD_some,length_drop,length_take,Nat.min_eq_left size]
  · rw [ResponseContext.rest,length_drop,length_take]
    omega

theorem rest_moved {sent : Nat} : (context.moved sent).rest = context.rest.drop sent := by
  rw [ResponseContext.rest,ResponseContext.rest,drop_drop]
  rfl

theorem backed_moved (backed : context.Backed) {sent : Nat}
    (inside : sent ≤ context.rest.length) : (context.moved sent).Backed := by
  rw [length_rest backed] at inside
  have within := backed.within
  refine ⟨show context.responseOffset + sent ≤ context.responseSize by omega,fun left => backed.content ?_⟩
  exact Nat.lt_of_le_of_lt (Nat.le_add_right ..) left

theorem send_rest (backed : context.Backed) (left : context.responseOffset < context.responseSize)
    {write : Write} : context.send write.results = some (.ok (write.taken context.rest)) := by
  have length := length_rest backed
  obtain ⟨content,there,size⟩ := backed.content left
  have offered : (content.drop context.responseOffset).take (context.responseSize - context.responseOffset) =
      context.rest := by
    rw [ResponseContext.rest,there,getD_some,drop_take]
  unfold ResponseContext.send
  rw [there]
  dsimp only
  unfold Net.DataChannel.sendFile Net.DataChannel.send
  rw [offered,if_neg (by omega : context.rest.length ≠ 0),Net.DataChannel.offer_write]
  split_ifs <;> rfl

section
variable {Own : Type} {packetHandler : PacketHandler Own} {threadIndex : UInt16}

def callsOf (before : List Call) (pieces : List Bytes) : List Call :=
  before ++ .beforeResponse :: pieces.map .transmitted

/-- The response is on its way: of the bytes that `context` asks for, the pieces have left and the
rest has not. -/
structure Sending (context : ResponseContext) (before : List Call) (pieces : List Bytes) (rest : Bytes)
    (waiter : Waiter Own) : Prop where
  sending : waiter.isSending = true
  moved : waiter.handler.responseContext = context.moved pieces.flatten.length
  calls : waiter.calls = callsOf before pieces
  split : pieces.flatten ++ rest = context.rest

/-- The response has been sent, and the handler was told so. -/
structure Finished (context : ResponseContext) (before : List Call) (pieces : List Bytes)
    (outcome : Waiter Own × Answer) : Prop where
  idle : outcome.1.isSending = false
  calls : outcome.1.calls = callsOf before pieces ++ [.onResponseCompleted]
  sent : pieces.flatten = context.rest
  answer : ∀ handOver, outcome.2 ≠ .returned .write handOver

def writing (threadIndex : UInt16) : Answer := .returned .write ⟨epollIn,threadIndex⟩

variable {context : ResponseContext} {before : List Call} {pieces : List Bytes} {rest : Bytes}
  {waiter : Waiter Own}

theorem Sending.finished (sending : Sending context before pieces [] waiter) :
    Finished context before pieces (complete packetHandler threadIndex waiter) := by
  have sent : pieces.flatten = context.rest := by
    rw [← sending.split,append_nil]
  unfold complete
  rcases packetHandler.onResponseCompleted ⟨true,threadIndex,epollIn⟩ waiter.handler with
    ⟨handler,indicator,res⟩
  rw [sending.calls]
  cases res with
  | handleRelease => exact ⟨rfl,rfl,sent,fun _ same => by cases same⟩
  | handleContinue => exact ⟨rfl,rfl,sent,fun _ same => by cases same⟩
  | handleError | handleFinish | handleClose => exact ⟨rfl,rfl,sent,fun _ same => by cases same⟩

section
variable (sending : Sending context before pieces rest waiter)
include sending

theorem Sending.context_rest : waiter.handler.responseContext.rest = rest := by
  rw [sending.moved,rest_moved,← sending.split,drop_left]

theorem Sending.backed (backed : context.Backed) : waiter.handler.responseContext.Backed := by
  rw [sending.moved]
  apply backed_moved backed
  rw [← sending.split,length_append]
  omega

theorem Sending.left_iff (backed : context.Backed) :
    waiter.handler.responseContext.responseOffset < waiter.handler.responseContext.responseSize ↔
      rest ≠ [] := by
  have length := length_rest (sending.backed backed)
  rw [sending.context_rest] at length
  rw [← length_pos_iff]
  omega

end

theorem Sending.sent {piece later : Bytes} (sending : Sending context before pieces (piece ++ later) waiter) :
    Sending context before (pieces ++ [piece]) later (waiter.sent piece) := by
  have flatten : (pieces ++ [piece]).flatten = pieces.flatten ++ piece := by simp
  constructor
  · exact sending.sending
  · unfold Waiter.sent Handler.moveResponseOffset
    rw [sending.moved,flatten,length_append,ResponseContext.moved,ResponseContext.moved]
    simp only [Nat.add_assoc]
  · unfold Waiter.sent
    rw [sending.calls]
    simp [callsOf]
  · rw [flatten,append_assoc]
    exact sending.split

theorem begin_sending (idle : waiter.isSending = false)
    (ready : (packetHandler.beforeResponse waiter.handler).responseContext = context) :
    Sending context waiter.calls [] context.rest (beginSending packetHandler waiter) := by
  unfold beginSending
  rw [idle]
  exact ⟨rfl,ready,rfl,rfl⟩

theorem Sending.begun (sending : Sending context before pieces rest waiter) :
    beginSending packetHandler waiter = waiter := if_pos sending.sending

theorem sendResponse_empty (sending : Sending context before pieces [] waiter) (backed : context.Backed)
    {ress : List Syscall} :
    sendResponse packetHandler threadIndex waiter ress = complete packetHandler threadIndex waiter := by
  have ended : ¬ waiter.handler.responseContext.responseOffset <
      waiter.handler.responseContext.responseSize := by
    rw [sending.left_iff backed]
    exact not_not_intro rfl
  exact if_pos (by omega)

theorem sendResponse_cases (sending : Sending context before pieces rest waiter) (backed : context.Backed)
    (missing : rest ≠ []) {write : Write} : (write.accepted = none ∧
      sendResponse packetHandler threadIndex waiter write.results = (waiter,writing threadIndex)) ∨
      ∃ piece later, piece ≠ [] ∧ write.accepted.isSome = true ∧
        Sending context before (pieces ++ [piece]) later (waiter.sent piece) ∧
        sendResponse packetHandler threadIndex waiter write.results =
          if later = [] then complete packetHandler threadIndex (waiter.sent piece)
          else (waiter.sent piece,writing threadIndex) := by
  have left := (sending.left_iff backed).mpr missing
  unfold sendResponse
  rw [if_neg (by omega),send_rest (sending.backed backed) left,sending.context_rest]
  cases accepted : write.taken rest with
  | none => exact Or.inl ⟨Option.map_eq_none_iff.mp accepted,rfl⟩
  | some piece =>
    obtain ⟨whole,nonempty⟩ := Net.DataChannel.taken_prefix accepted
    obtain ⟨size,some,_⟩ := Option.map_eq_some_iff.mp accepted
    rw [← whole] at sending
    have next := sending.sent
    refine Or.inr ⟨piece,rest.drop piece.length,nonempty missing,by rw [some]; rfl,next,?_⟩
    have more := next.left_iff backed
    dsimp only
    by_cases last : rest.drop piece.length = []
    · rw [if_pos last,if_neg fun greater => more.mp greater last]
    · rw [if_neg last,if_pos (more.mpr last)]
      rfl

def accepting (writes : List Write) : Nat := writes.countP fun write => write.accepted.isSome

section
variable (packetHandler threadIndex context before)

def Underway (count : Nat) (waiter : Waiter Own) : Prop :=
  ∃ pieces rest, pieces.length = count ∧ (∀ piece ∈ pieces, piece ≠ []) ∧ rest ≠ [] ∧
    Sending context before pieces rest waiter

/-- After these write events the response is on its way, and each of them was answered with `epoll_write`. -/
def Ongoing (waiter : Waiter Own) (writes : List Write) : Prop :=
  (∀ answer ∈ Run.outputs (step packetHandler threadIndex) waiter writes, answer = writing threadIndex) ∧
    Underway context before (accepting writes) (Run.final (step packetHandler threadIndex) waiter writes)

/-- One of these write events has completed the response; each before it was answered with `epoll_write`. -/
def Completed (waiter : Waiter Own) (writes : List Write) : Prop :=
  Run.Ends (step packetHandler threadIndex) (· = writing threadIndex)
    (fun outcome => ∃ pieces, Finished context before pieces outcome) waiter writes

end

variable (packetHandler threadIndex) in
theorem sendResponse_underway (sending : Sending context before pieces rest waiter) (backed : context.Backed)
    (filled : ∀ piece ∈ pieces, piece ≠ []) (missing : rest ≠ []) (write : Write) :
    (sendResponse packetHandler threadIndex waiter write.results).2 = writing threadIndex ∧
        Underway context before (pieces.length + if write.accepted.isSome then 1 else 0)
          (sendResponse packetHandler threadIndex waiter write.results).1 ∨
      ∃ pieces, Finished context before pieces
        (sendResponse packetHandler threadIndex waiter write.results) := by
  rcases sendResponse_cases sending backed missing with ⟨blocked,same⟩ | ⟨piece,later,some,accepted,next,sent⟩
  · left
    rw [same,blocked]
    exact ⟨rfl,pieces,rest,rfl,filled,missing,sending⟩
  · rw [sent]
    by_cases last : later = []
    · subst last
      exact Or.inr ⟨pieces ++ [piece],next.finished⟩
    · rw [if_neg last,accepted]
      refine Or.inl ⟨rfl,pieces ++ [piece],later,length_append,?_,last,next⟩
      exact forall_mem_append.mpr ⟨filled,forall_mem_singleton.mpr some⟩

variable {count : Nat}

theorem step_underway (backed : context.Backed) (underway : Underway context before count waiter)
    (write : Write) : (step packetHandler threadIndex waiter write).2 = writing threadIndex ∧
        Underway context before (count + if write.accepted.isSome then 1 else 0)
          (step packetHandler threadIndex waiter write).1 ∨
      ∃ pieces, Finished context before pieces (step packetHandler threadIndex waiter write) := by
  obtain ⟨pieces,rest,rfl,filled,missing,sending⟩ := underway
  rw [step,doHandleEpollSend,sending.begun]
  exact sendResponse_underway packetHandler threadIndex sending backed filled missing write

theorem step_first (idle : waiter.isSending = false)
    (prepared : (packetHandler.beforeResponse waiter.handler).responseContext = context)
    (backed : context.Backed)
    (write : Write) : (step packetHandler threadIndex waiter write).2 = writing threadIndex ∧
        Underway context waiter.calls (if write.accepted.isSome then 1 else 0)
          (step packetHandler threadIndex waiter write).1 ∨
      ∃ pieces, Finished context waiter.calls pieces (step packetHandler threadIndex waiter write) := by
  have sending := begin_sending idle prepared
  by_cases empty : context.rest = []
  · rw [empty] at sending
    rw [step,doHandleEpollSend,sendResponse_empty sending backed]
    exact Or.inr ⟨[],sending.finished⟩
  · have begun := sendResponse_underway packetHandler threadIndex sending backed
      (fun _ mem => absurd mem not_mem_nil) empty write
    rw [length_nil,Nat.zero_add] at begun
    exact begun

theorem underway_count (underway : Underway context before count waiter) : count < context.rest.length := by
  obtain ⟨pieces,rest,rfl,filled,missing,sending⟩ := underway
  have least : pieces.length ≤ pieces.flatten.length := by
    clear sending
    induction pieces with
    | nil => exact Nat.le_refl 0
    | cons piece pieces ih =>
      obtain ⟨here,there⟩ := forall_mem_cons.mp filled
      have pos := length_pos_iff.mpr here
      have smaller := ih there
      rw [length_cons,flatten_cons,length_append]
      omega
  have pos := length_pos_iff.mpr missing
  rw [← sending.split,length_append]
  omega

end

/-- Whatever the sends take, the bytes of a response leave once and in order, between one call of
`before_response` and one of `on_response_completed`; and as many events that accept something as
there are bytes complete it. -/
theorem response_transmitted {Own : Type} (packetHandler : PacketHandler Own) (threadIndex : UInt16)
    (waiter : Waiter Own) (context : ResponseContext) (idle : waiter.isSending = false)
    (prepared : (packetHandler.beforeResponse waiter.handler).responseContext = context)
    (backed : context.Backed) (writes : List Write) (some : writes ≠ []) :
    (Ongoing packetHandler threadIndex context waiter.calls waiter writes ∨
        Completed packetHandler threadIndex context waiter.calls waiter writes) ∧
      (context.responseSize - context.responseOffset ≤ accepting writes →
        Completed packetHandler threadIndex context waiter.calls waiter writes) := by
  have run : Ongoing packetHandler threadIndex context waiter.calls waiter writes ∨
      Completed packetHandler threadIndex context waiter.calls waiter writes := by
    refine Run.stays_or_ends_first (fun write : Write => write.accepted.isSome)
      (Underway context waiter.calls) ?_ waiter
      ?_ writes some
    · intro count state write underway
      exact step_underway backed underway write
    · exact step_first idle prepared backed
  refine ⟨run,fun enough => run.resolve_left fun ongoing => ?_⟩
  have fewer := underway_count ongoing.2
  rw [length_rest backed] at fewer
  omega

def plainHandler : PacketHandler Unit where
  beforeResponse handler := handler
  onResponseCompleted indicator handler := (handler,indicator,.handleContinue)
  reset handler := handler

theorem response_transmitted_file :
    Completed plainHandler 3 ⟨true,4,1,some [10,11,12,13]⟩ [] ⟨false,⟨(),⟨true,4,1,some [10,11,12,13]⟩⟩,[]⟩
      [⟨0,some 1⟩,⟨2,none⟩,⟨0,some 1⟩,⟨1,some 7⟩] :=
  (response_transmitted plainHandler 3 ⟨false,⟨(),⟨true,4,1,some [10,11,12,13]⟩⟩,[]⟩ _ rfl rfl
    ⟨by decide,fun _ => ⟨_,rfl,by decide⟩⟩ _ (cons_ne_nil _ _)).2 (by decide)

end Mooon.Server.Response

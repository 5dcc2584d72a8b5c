import Mooon.Http.Parser
import Mathlib.Data.List.Induction

/-! A head in pieces against the same head in one call. Every place where a command can stop
is one where it goes on with the next piece as if there had been no end, except behind the
line feed that starts a line. -/
namespace Mooon.Http
open Run
open Net (Bytes HandleResult)
open List

def resume (run : Scan → Nat → Bytes → Execution) (done : Execution) (more : Bytes) : Execution :=
  match done with
  | (scan,.handleContinue,iter,_) => run scan iter more
  | (scan,.handleFinish,iter,rest) => (scan,.handleFinish,iter,rest++more)
  | (scan,.handleError,iter,rest) => (scan,.handleError,iter,rest++more)

def Parser.Pending (parser : Parser) (piece : Bytes) : Prop :=
  parser.commands.head? = some .nameValuePair ∧ parser.scan.pair.nameBegin = none ∧
    piece.getLast? = some lineFeed

section
variable {isRequest : Bool} {accept : List Event → Bool} {token : Token}

theorem doExecute_append {scan : Scan} {iter : Nat} {piece more : Bytes} (clean : nul ∉ piece) :
    doExecute isRequest accept token scan iter (piece++more) =
      resume (doExecute isRequest accept token) (doExecute isRequest accept token scan iter piece) more := by
  fun_induction doExecute isRequest accept token scan iter piece with
  | case1 => rfl
  | case2 => simp at clean
  | case3 scan iter rest start zero ih =>
    simp only [mem_cons,not_or] at clean
    simp only [cons_append,doExecute,start]
    exact ih clean.2
  | case4 scan iter char rest zero start other ih =>
    simp only [mem_cons,not_or] at clean
    simp only [cons_append,doExecute,start,if_neg zero,if_neg other]
    exact ih clean.2
  | case5 scan iter rest start begun scan' refused zero =>
    simp only [cons_append,doExecute,begun,if_neg zero]
    exact if_pos refused
  | case6 scan iter rest start begun scan' accepted zero =>
    simp only [cons_append,doExecute,begun,if_neg zero]
    exact if_neg accepted
  | case7 scan iter char rest zero start begun other ih =>
    simp only [mem_cons,not_or] at clean
    simp only [cons_append,doExecute,begun,if_neg zero,if_neg other]
    exact ih clean.2

variable (scan : Scan)

theorem pairExecute_inside (nameBegin iter : Nat) (char : UInt8) (rest : Bytes)
    (inside : scan.pair.nameBegin = some nameBegin) (zero : char ≠ nul) :
    pairExecute accept scan iter (char::rest) =
      match pairRound accept scan nameBegin iter char with
      | (scan,true) => pairExecute accept scan (iter+1) rest
      | (scan,false) => (scan,.handleError,iter,char::rest) := by
  rw [pairExecute.eq_def]
  refine Eq.trans (if_neg zero) ?_
  generalize scan.pair.nameBegin = begun at inside ⊢
  subst inside
  rfl

variable (iter : Nat)

theorem pairExecute_outside (char : UInt8) (rest : Bytes)
    (outside : scan.pair.nameBegin = none) (zero : char ≠ nul) (other : char ≠ lineFeed) :
    pairExecute accept scan iter (char::rest) =
      (scan.emit (.onError "NV pair not started with '\\n'"),.handleError,iter,char::rest) := by
  rw [pairExecute.eq_def]
  simp only [outside,if_neg zero,if_pos other]

variable {rest : Bytes}

theorem getLast?_tail_ne {first : UInt8} (other : (first::rest).getLast? ≠ some lineFeed) :
    rest.getLast? ≠ some lineFeed := by
  cases rest with
  | nil => simp
  | cons second rest => rwa [getLast?_cons_cons] at other

variable {more : Bytes} (piece : Bytes)

theorem pairExecute_append (clean : nul ∉ piece)
    (settled : (pairExecute accept scan iter piece).1.pair.nameBegin = none →
      (pairExecute accept scan iter piece).2.1 = .handleContinue → piece.getLast? ≠ some lineFeed) :
    pairExecute accept scan iter (piece++more) =
      resume (pairExecute accept) (pairExecute accept scan iter piece) more := by
  fun_induction pairExecute accept scan iter piece with
  | case1 => rfl
  | case2 => simp at clean
  | case3 scan iter char rest zero outside other =>
    rw [cons_append,pairExecute_outside scan iter char _ outside zero other]
    rfl
  | case4 scan iter char zero outside feed => simp_all
  | case5 => simp at clean
  | case6 scan iter char zero outside feed rest zero' =>
    simp only [cons_append,pairExecute,outside,if_neg zero,if_neg feed,if_neg zero',if_true,resume]
  | case7 scan iter char zero outside feed second rest zero' other ih =>
    simp only [mem_cons,not_or] at clean
    simp only [cons_append,pairExecute,outside,if_neg zero,if_neg feed,if_neg zero',if_neg other]
    exact ih clean.2.2 (fun ended continues => getLast?_tail_ne (getLast?_tail_ne (settled ended continues)))
  | case8 scan iter char rest zero nameBegin inside scan' round ih =>
    simp only [mem_cons,not_or] at clean
    rw [cons_append,pairExecute_inside scan nameBegin iter char _ inside zero,round]
    exact ih clean.2 (fun ended continues => getLast?_tail_ne (settled ended continues))
  | case9 scan iter char rest zero nameBegin inside scan' round =>
    rw [cons_append,pairExecute_inside scan nameBegin iter char _ inside zero,round]
    rfl

theorem headEndExecute_append (clean : nul ∉ piece) :
    headEndExecute scan iter (piece++more) = resume headEndExecute (headEndExecute scan iter piece) more := by
  cases piece with
  | nil => rfl
  | cons char rest =>
    have zero : char ≠ nul := fun same => clean (by simp [same])
    by_cases other : char ≠ lineFeed
    · simp only [cons_append,headEndExecute,if_neg zero,if_pos other,resume]
    · simp only [cons_append,headEndExecute,if_neg zero,if_neg other,resume]

/-- Where a command stops: it has passed `used`, and with no NUL it asks for more only at the end. -/
structure Stops (iter : Nat) (buffer : Bytes) (done : Execution) : Prop where
  passed : ∃ used, buffer = used ++ done.2.2.2 ∧ done.2.2.1 = iter + used.length
  ended : nul ∉ buffer → done.2.1 = .handleContinue → done.2.2.2 = []

theorem Stops.here (res : HandleResult) (iter : Nat) (buf : Bytes)
    (ended : nul ∉ buf → res = .handleContinue → buf = []) : Stops iter buf (scan,res,iter,buf) :=
  ⟨⟨[],rfl,rfl⟩,ended⟩

theorem Stops.next {iter : Nat} {char : UInt8} {done : Execution} (stops : Stops (iter+1) rest done) :
    Stops iter (char::rest) done := by
  obtain ⟨⟨used,split,place⟩,ended⟩ := stops
  refine ⟨⟨char::used,?_,?_⟩,?_⟩
  · rw [split]
    rfl
  · rw [length_cons]
    omega
  · intro clean
    exact ended (not_mem_of_not_mem_cons clean)

theorem doExecute_stops {scan : Scan} {iter : Nat} {buf : Bytes} :
    Stops iter buf (doExecute isRequest accept token scan iter buf) := by
  fun_induction doExecute isRequest accept token scan iter buf with
  | case1 => exact .here _ _ _ _ (fun _ _ => rfl)
  | case2 => exact .here _ _ _ _ (fun clean => by simp at clean)
  | case3 _ _ _ _ _ ih | case4 _ _ _ _ _ _ _ ih | case7 _ _ _ _ _ _ _ _ ih => exact ih.next
  | case5 => exact .here _ _ _ _ (fun _ same => by cases same)
  | case6 => exact (Stops.here _ _ _ _ (fun _ same => by cases same)).next

variable {buf : Bytes}

theorem pairExecute_stops : Stops iter buf (pairExecute accept scan iter buf) := by
  fun_induction pairExecute accept scan iter buf with
  | case1 => exact .here _ _ _ _ (fun _ _ => rfl)
  | case2 => exact .here _ _ _ _ (fun clean => by simp at clean)
  | case3 => exact .here _ _ _ _ (fun _ same => by cases same)
  | case4 => exact (Stops.here _ _ _ _ (fun _ _ => rfl)).next
  | case5 => exact (Stops.here _ _ _ _ (fun clean => by simp at clean)).next
  | case6 => exact (Stops.here _ _ _ _ (fun _ same => by cases same)).next.next
  | case7 _ _ _ _ _ _ _ _ _ _ ih => exact ih.next.next
  | case8 _ _ _ _ _ _ _ _ _ ih => exact ih.next
  | case9 => exact .here _ _ _ _ (fun _ same => by cases same)

theorem headEndExecute_stops : Stops iter buf (headEndExecute scan iter buf) := by
  cases buf with
  | nil => exact .here _ _ _ _ (fun _ _ => rfl)
  | cons char rest =>
    simp only [headEndExecute]
    split_ifs with zero other
    · exact .here _ _ _ _ (fun clean => by simp [zero] at clean)
    · exact .here _ _ _ _ (fun _ same => by cases same)
    · exact (Stops.here _ _ _ _ (fun _ same => by cases same)).next

variable (isRequest accept) in
theorem execute_stops (command : Command) (scan : Scan) (iter : Nat) (buf : Bytes) :
    Stops iter buf (execute isRequest accept command scan iter buf) := by
  cases command with
  | token token => exact doExecute_stops
  | nameValuePair => exact pairExecute_stops scan iter
  | headEnd => exact headEndExecute_stops scan iter

variable (isRequest accept) in
theorem execute_append (command : Command) (scan : Scan) (iter : Nat) (piece more : Bytes)
    (clean : nul ∉ piece) (settled : command = .nameValuePair →
      (execute isRequest accept command scan iter piece).1.pair.nameBegin = none →
      (execute isRequest accept command scan iter piece).2.1 = .handleContinue →
        piece.getLast? ≠ some lineFeed) :
    execute isRequest accept command scan iter (piece++more) =
      resume (execute isRequest accept command) (execute isRequest accept command scan iter piece) more := by
  cases command with
  | token token => exact doExecute_append clean
  | nameValuePair => exact pairExecute_append scan iter piece clean (settled rfl)
  | headEnd => exact headEndExecute_append scan iter piece clean

variable {command : Command} {scan later : Scan} {addr iter : Nat} {piece : Bytes}

theorem execute_rest {res : HandleResult}
    (done : execute isRequest accept command scan addr piece = (later,res,iter,rest)) :
    ∃ used, piece = used ++ rest ∧ iter = addr + used.length := by
  have stops := (execute_stops isRequest accept command scan addr piece).passed
  rwa [done] at stops

theorem execute_ended (clean : nul ∉ piece)
    (done : execute isRequest accept command scan addr piece = (later,.handleContinue,iter,rest)) :
    iter = addr + piece.length := by
  have ended := (execute_stops isRequest accept command scan addr piece).ended clean
  obtain ⟨used,split,place⟩ := execute_rest done
  rw [done] at ended
  have empty : rest = [] := ended rfl
  rw [place,split,empty,append_nil]

end

variable (accept : List Event → Bool) (cmds : List Command) (parser : Parser) (address : Nat) (piece : Bytes)

theorem Parser.parseWith_stays (more : Bytes) (clean : nul ∉ piece)
    (stopped : (parser.parseWith accept cmds address piece).2 ≠ .handleContinue) :
    parser.parseWith accept cmds address (piece++more) = parser.parseWith accept cmds address piece := by
  induction cmds generalizing parser address piece with
  | nil => rfl
  | cons command next ih =>
    rcases done : execute parser.isRequest accept command parser.scan address piece with ⟨scan,res,iter,rest⟩
    have longer := execute_append parser.isRequest accept command parser.scan address piece more clean
    simp only [Parser.parseWith,done] at stopped ⊢
    cases res with
    | handleError => rw [longer (fun _ _ same => by simp [done] at same),done]; rfl
    | handleContinue => exact absurd rfl stopped
    | handleFinish =>
      rw [longer (fun _ _ same => by simp [done] at same),done]
      obtain ⟨used,split,place⟩ := execute_rest done
      have clean : nul ∉ rest := fun mem => clean (by simp [split,mem])
      simp only [resume] at stopped ⊢
      split_ifs with last
      · rfl
      · rw [if_neg last] at stopped
        exact ih _ _ _ clean stopped

theorem Parser.parseWith_headLength :
    (parser.parseWith accept cmds address piece).1.headLength ≤ parser.headLength + piece.length := by
  induction cmds generalizing parser address piece with
  | nil => exact Nat.le_add_right _ _
  | cons command next ih =>
    rcases done : execute parser.isRequest accept command parser.scan address piece with ⟨scan,res,iter,rest⟩
    obtain ⟨used,rfl,rfl⟩ := execute_rest done
    simp only [Parser.parseWith,done]
    cases res with
    | handleError => exact Nat.le_add_right _ _
    | handleContinue => simp
    | handleFinish =>
      split_ifs with last
      · simp
      · refine (ih _ _ _).trans ?_
        simp
        omega

/-- Two calls that give the same answer, and leave the same parser unless it is an error. -/
def Agree (first second : Parser × HandleResult) : Prop :=
  first.2 = second.2 ∧ (first.2 ≠ .handleError → first = second)

theorem Parser.parseWith_append (later : Parser)
    (same : parser.commands = cmds) (address : Nat) (piece more : Bytes) (clean : nul ∉ piece)
    (continues : parser.parseWith accept cmds address piece = (later,.handleContinue))
    (settled : ¬ later.Pending piece) :
    Agree (parser.parseWith accept cmds address (piece++more))
      (later.parse accept (address+piece.length) more) := by
  induction cmds generalizing parser address piece with
  | nil => simp [Parser.parseWith] at continues
  | cons command next ih =>
    rcases done : execute parser.isRequest accept command parser.scan address piece with ⟨scan,res,iter,rest⟩
    have longer := execute_append parser.isRequest accept command parser.scan address piece more clean
    rw [Parser.parseWith,done] at continues
    cases res with
    | handleError => simp at continues
    | handleContinue =>
      have ended := execute_ended clean done
      simp only [Prod.mk.injEq,and_true] at continues
      subst continues
      have unsettled : command = .nameValuePair → scan.pair.nameBegin = none →
          piece.getLast? ≠ some lineFeed := by
        rintro rfl outside last
        exact settled ⟨by simp [same],outside,last⟩
      simp only [done] at longer
      simp only [Parser.parse,same,Parser.parseWith]
      rw [longer (fun pairs outside _ => unsettled pairs outside),← ended]
      simp only [resume]
      rcases again : execute parser.isRequest accept command scan iter more with ⟨scan',result',iter',rest'⟩
      obtain ⟨used,-,place⟩ := execute_rest again
      have lengths : parser.headLength + (iter'-address) = parser.headLength + (iter-address) +
          (iter'-iter) := by omega
      cases result' with
      | handleError => exact ⟨rfl,fun other => absurd rfl other⟩
      | handleContinue => exact ⟨rfl,fun _ => by simp [lengths]⟩
      | handleFinish => simp only [lengths]; exact ⟨rfl,fun _ => rfl⟩
    | handleFinish =>
      obtain ⟨used,split,place⟩ := execute_rest done
      have clean : nul ∉ rest := fun mem => clean (by simp [split,mem])
      have settled : ¬ later.Pending rest := by
        rintro ⟨pairs,outside,last⟩
        exact settled ⟨pairs,outside,by simp [split,last]⟩
      simp only [Parser.parseWith]
      rw [longer (fun _ _ same => by simp [done] at same),done]
      split_ifs at continues ⊢ with last
      · simp at continues
      · have further := ih _ rfl iter rest clean continues settled
        rwa [show iter + rest.length = address + piece.length by rw [split,length_append]; omega] at further

theorem Parser.Pending.refuses {parser : Parser} {piece : Bytes} (pending : parser.Pending piece)
    (accept : List Event → Bool) (address : Nat) (char : UInt8) (rest : Bytes) (zero : char ≠ nul)
    (other : char ≠ lineFeed) : (parser.parse accept address (char::rest)).2 = .handleError := by
  obtain ⟨pairs,outside,-⟩ := pending
  obtain ⟨next,cmds⟩ := head?_eq_some_iff.mp pairs
  rw [Parser.parse,cmds,Parser.parseWith,execute,pairExecute_outside _ address char rest outside zero other]

section
variable (accept : List Event → Bool) (parser : Parser) (address : Nat)

/-- The call on a beginning of the head asks for more and has not stopped behind the line feed of a line. -/
def Settled (done : Bytes) : Prop :=
  (parser.parse accept address done).2 = .handleContinue ∧ ¬ (parser.parse accept address done).1.Pending done

variable {accept parser address}

theorem Settled.parse_append {done : Bytes} (settled : Settled accept parser address done)
    (clean : nul ∉ done) (more : Bytes) : Agree (parser.parse accept address (done++more))
      ((parser.parse accept address done).1.parse accept (address+done.length) more) :=
  Parser.parseWith_append accept _ parser _ rfl address done more clean (Prod.ext rfl settled.1) settled.2

theorem feed_last {pieces : List Bytes} (clean : nul ∉ pieces.flatten)
    (settled : Settled accept parser address pieces.flatten)
    (before : final (feed accept) (parser,address) pieces =
      ((parser.parse accept address pieces.flatten).1,address+pieces.flatten.length)) (piece : Bytes) :
    Agree (parser.parse accept address (pieces++[piece]).flatten)
      ((final (feed accept) (parser,address) pieces).1.parse accept
        (final (feed accept) (parser,address) pieces).2 piece) := by
  rw [before,flatten_append,flatten_singleton]
  exact settled.parse_append clean piece

theorem feed_pieces (pieces : List Bytes) (some : pieces ≠ []) (clean : nul ∉ pieces.flatten)
    (settled : ∀ before after, pieces = before++after → before ≠ [] → after ≠ [] →
      Settled accept parser address before.flatten)
    (fine : (parser.parse accept address pieces.flatten).2 ≠ .handleError) :
    final (feed accept) (parser,address) pieces =
        ((parser.parse accept address pieces.flatten).1,address+pieces.flatten.length) ∧
      outputs (feed accept) (parser,address) pieces =
        replicate (pieces.length-1) .handleContinue ++ [(parser.parse accept address pieces.flatten).2] := by
  -- from the last piece backwards: what was fed before it is itself a head in pieces
  induction pieces using reverseRecOn with
  | nil => exact absurd rfl some
  | append_singleton init last ih =>
    rw [final_append,outputs_append]
    by_cases first : init = []
    · subst first
      simp [feed]
    · have clean : nul ∉ init.flatten := fun mem => clean (by simp [mem])
      have before := settled init [last] rfl first (by simp)
      obtain ⟨reached,answers⟩ := ih first clean
        (fun before after split nonempty later => settled before (after++[last]) (by simp [split])
          nonempty (by simp))
        (by simp [before.1])
      have agree := feed_last clean before reached last
      have same := agree.2 fine
      constructor
      · rw [final_cons,feed,← same,reached]
        simp [Nat.add_assoc]
      · rw [answers,before.1,← replicate_succ',outputs_cons,feed,← same]
        have count := Nat.sub_add_cancel (length_pos_iff.mpr first)
        simp [count]

theorem feed_settled (pieces : List Bytes) (clean : nul ∉ pieces.flatten)
    (nonempty : ∀ piece ∈ pieces, piece ≠ [])
    (continues : ∀ before after, pieces = before++after → before ≠ [] → after ≠ [] →
      (parser.parse accept address before.flatten).2 = .handleContinue)
    (line : ∀ done char rest, pieces.flatten = done ++ char::rest → done.getLast? = some lineFeed →
      char ≠ lineFeed)
    (fine : .handleError ∉ outputs (feed accept) (parser,address) pieces) :
    ∀ before after, pieces = before++after → before ≠ [] → after ≠ [] →
      Settled accept parser address before.flatten := by
  induction pieces using reverseRecOn with
  | nil =>
    intro before after split first
    simp at split
    exact absurd split.1 first
  | append_singleton init last ih =>
    have earlier := ih (fun mem => clean (by simp [mem])) (fun piece mem => nonempty piece (by simp [mem]))
      (fun before after split first later => continues before (after++[last]) (by simp [split])
        first (by simp))
      (fun done char rest split => line done char (rest++last) (by simp [split]))
      (fun mem => fine (by simp [outputs_append,mem]))
    intro before after split first later
    rcases eq_nil_or_concat' after with rfl | ⟨rest,piece,rfl⟩
    · exact absurd rfl later
    · obtain ⟨split,-⟩ := append_inj' (split.trans (append_assoc before rest [piece]).symm) rfl
      by_cases more : rest = []
      · rw [more,append_nil] at split
        subst split
        have asked := continues init [last] rfl first (by simp)
        refine ⟨asked,fun pending => fine ?_⟩
        obtain ⟨reached,-⟩ := feed_pieces init first (fun mem => clean (by simp [mem])) earlier
          (by simp [asked])
        obtain ⟨char,rest,rfl⟩ := exists_cons_of_ne_nil (nonempty last (by simp))
        have zero : char ≠ nul := fun same => clean (by simp [same])
        have other := line init.flatten char rest (by simp) pending.2.2
        have refused := pending.refuses accept (address+init.flatten.length) char rest zero other
        rw [outputs_append,reached]
        exact mem_append_right _ (mem_cons.mpr (Or.inl refused.symm))
      · exact earlier before rest split first more

end

end Mooon.Http

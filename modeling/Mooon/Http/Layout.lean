import Mooon.Http.Head

/-! Exactly the inputs that the parser takes for a head. -/
namespace Mooon.Http
open Net (Bytes HandleResult)
open List Function

structure Layout where
  first : Word space
  second : Word space
  third : Word carriageReturn
  lines : List Line

def linesBytes (lines : List Line) : Bytes := (lines.map Line.bytes).flatten

def Layout.bytes (layout : Layout) : Bytes :=
  layout.first.bytes ++ (layout.second.bytes ++ (layout.third.bytes ++ (linesBytes layout.lines ++
    [lineFeed,carriageReturn,lineFeed])))

def linesEvents : Nat → List Line → List Event
  | _, [] => []
  | address, line::rest => line.event address :: linesEvents (address + line.bytes.length) rest

def Layout.events (layout : Layout) (isRequest : Bool) (address : Nat) : List Event :=
  let (first,second,third) := tokens isRequest
  let secondAt := address + layout.first.bytes.length
  let thirdAt := secondAt + layout.second.bytes.length
  [layout.first.event first address,layout.second.event second secondAt,layout.third.event third thirdAt] ++
    linesEvents (thirdAt + layout.third.bytes.length) layout.lines

section
variable {isRequest : Bool} {token : Token} {ends : UInt8} {later : Scan} {stop : Nat} {buf : Bytes}
  {rest : Bytes}

theorem doExecute_begun_finish {scan : Scan} {start iter : Nat}
    (begun : scan.begins token = some start)
    (done : doExecute isRequest always token scan iter buf = (later,.handleFinish,stop,rest)) :
    ∃ text, buf = text ++ token.endChar isRequest::rest ∧ ∀ char ∈ text, char ≠ nul ∧
      char ≠ token.endChar isRequest := by
  induction buf generalizing iter with
  | nil => simp [doExecute] at done
  | cons char buf ih =>
    by_cases ended : char = token.endChar isRequest
    · rw [ended,doExecute_end begun] at done
      cases done
      exact ⟨[],by rw [ended]; rfl,by simp⟩
    · rw [doExecute] at done
      split at done
      · cases done
      · rename_i zero
        simp only [begun] at done
        obtain ⟨text,rfl,inside⟩ := ih done
        exact ⟨char::text,rfl,forall_mem_cons.mpr ⟨⟨zero,ended⟩,inside⟩⟩

theorem doExecute_finish (ending : token.endChar isRequest = ends) {scan : Scan} {iter : Nat}
    (fresh : scan.begins token = none)
    (done : doExecute isRequest always token scan iter buf = (later,.handleFinish,stop,rest)) :
    ∃ word : Word ends, buf = word.bytes ++ rest := by
  induction buf generalizing iter with
  | nil => simp [doExecute] at done
  | cons char buf ih =>
    rw [doExecute] at done
    split at done
    · cases done
    · rename_i zero
      simp only [fresh] at done
      split_ifs at done with spaced
      · obtain ⟨word,rfl⟩ := ih done
        refine ⟨{word with spaces := word.spaces + 1},?_⟩
        rw [spaced]
        rfl
      · obtain ⟨tail,rfl,inside⟩ := doExecute_begun_finish (update_self token (some iter) scan.begins) done
        subst ending
        exact ⟨⟨0,char,tail,⟨zero,spaced⟩,inside⟩,by simp [Word.bytes,Word.text]⟩

end

theorem pairExecute_lines (lines : List Line) (scan : Scan) (iter : Nat) (rest : Bytes)
    (fresh : scan.pair = .reset) : pairExecute always scan iter (linesBytes lines ++ rest) =
      pairExecute always {scan with events := scan.events ++ linesEvents iter lines}
        (iter+(linesBytes lines).length)
        rest := by
  induction lines generalizing scan iter with
  | nil =>
    rw [linesEvents,append_nil]
    rfl
  | cons line lines ih =>
    have shape : linesBytes (line::lines) = line.bytes ++ linesBytes lines := rfl
    have events : (scan.emit (line.event iter)).events ++ linesEvents (iter+line.bytes.length) lines =
        scan.events ++ linesEvents iter (line::lines) := by
      simp [Scan.emit,linesEvents]
    rw [shape,append_assoc,pairExecute_line scan iter _ fresh,ih (scan.emit (line.event iter)) _ fresh,events,
      length_append,Nat.add_assoc]
    rfl

section
variable {later : Scan} {stop : Nat} {rest : Bytes}

/-- The pair command has not ended yet: between two lines it goes on with the rest of its input. -/
def Accepts (later : Scan) (stop : Nat) (rest buffer : Bytes) : Prop :=
  ∃ scan iter, scan.pair = .reset ∧ pairExecute always scan iter buffer = (later,.handleFinish,stop,rest)

variable {scan : Scan} {iter : Nat} {buf : Bytes}

theorem pairExecute_nonzero {char : UInt8}
    (done : pairExecute always scan iter (char::buf) = (later,.handleFinish,stop,rest)) : char ≠ nul := by
  intro zero
  rw [pairExecute.eq_def] at done
  simp [zero] at done

variable {nameBegin : Nat} {nameEnd : Nat}

theorem valuing_finish {valueBegin : Nat} (valuing : scan.pair = .valuing nameBegin nameEnd valueBegin)
    (done : pairExecute always scan iter buf = (later,.handleFinish,stop,rest)) :
    ∃ tail more, buf = tail ++ carriageReturn::more ∧ (∀ char ∈ tail, char ≠ nul ∧ char ≠ carriageReturn) ∧
      Accepts later stop rest more := by
  have begun : scan.pair.nameBegin = some nameBegin := by rw [valuing]; rfl
  induction buf generalizing iter with
  | nil => simp [pairExecute] at done
  | cons char buf ih =>
    have zero := pairExecute_nonzero done
    by_cases ended : char = carriageReturn
    · rw [ended,pairExecute_round begun (by decide) (valuing_return valuing)] at done
      exact ⟨[],buf,by rw [ended]; rfl,by simp,_,_,rfl,done⟩
    · rw [pairExecute_round begun zero (valuing_round valuing ended)] at done
      obtain ⟨tail,more,rfl,inside,accepts⟩ := ih done
      exact ⟨char::tail,more,rfl,forall_mem_cons.mpr ⟨⟨zero,ended⟩,inside⟩,accepts⟩

theorem spacing_finish (spacing : scan.pair = .spacing nameBegin nameEnd)
    (done : pairExecute always scan iter buf = (later,.handleFinish,stop,rest)) :
    ∃ (value : Word carriageReturn) (more : Bytes), buf = value.bytes ++ more ∧
      Accepts later stop rest more := by
  have begun : scan.pair.nameBegin = some nameBegin := by rw [spacing]; rfl
  induction buf generalizing iter with
  | nil => simp [pairExecute] at done
  | cons char buf ih =>
    have zero := pairExecute_nonzero done
    by_cases spaced : char = space
    · rw [spaced,pairExecute_round begun (by decide) (spacing_space spacing)] at done
      obtain ⟨value,more,rfl,accepts⟩ := ih done
      refine ⟨{value with spaces := value.spaces + 1},more,?_,accepts⟩
      rw [spaced]
      rfl
    · rw [pairExecute_round begun zero (spacing_first spacing spaced)] at done
      obtain ⟨tail,more,rfl,inside,accepts⟩ := valuing_finish rfl done
      exact ⟨⟨0,char,tail,⟨zero,spaced⟩,inside⟩,more,by simp [Word.bytes,Word.text],accepts⟩

theorem naming_finish (naming : scan.pair = .naming nameBegin)
    (done : pairExecute always scan iter buf = (later,.handleFinish,stop,rest)) :
    ∃ (tail : Bytes) (value : Option (Word carriageReturn)) (more : Bytes),
      buf = tail ++ (match value with
        | none => [carriageReturn]
        | some value => colon::value.bytes) ++ more ∧
      (∀ char ∈ tail, char ≠ nul ∧ char ≠ carriageReturn ∧ char ≠ colon) ∧ Accepts later stop rest more := by
  have begun : scan.pair.nameBegin = some nameBegin := by rw [naming]; rfl
  induction buf generalizing iter with
  | nil => simp [pairExecute] at done
  | cons char buf ih =>
    have zero := pairExecute_nonzero done
    by_cases ended : char = carriageReturn
    · rw [ended,pairExecute_round begun (by decide) (naming_return naming)] at done
      exact ⟨[],none,buf,by rw [ended]; rfl,by simp,_,_,rfl,done⟩
    · by_cases valued : char = colon
      · rw [valued,pairExecute_round begun (by decide) (naming_colon naming)] at done
        obtain ⟨value,more,rfl,accepts⟩ := spacing_finish rfl done
        exact ⟨[],some value,more,by rw [valued]; rfl,by simp,accepts⟩
      · rw [pairExecute_round begun zero (naming_round naming ended valued)] at done
        obtain ⟨tail,value,more,rfl,inside,accepts⟩ := ih done
        exact ⟨char::tail,value,more,by simp,forall_mem_cons.mpr ⟨⟨zero,ended,valued⟩,inside⟩,accepts⟩

theorem Accepts.cases (accepts : Accepts later stop rest buf) : buf = lineFeed::carriageReturn::rest ∨
      ∃ (line : Line) (more : Bytes), buf = line.bytes ++ more ∧ Accepts later stop rest more := by
  obtain ⟨scan,iter,fresh,done⟩ := accepts
  cases buf with
  | nil => simp [pairExecute] at done
  | cons char buf =>
    have zero := pairExecute_nonzero done
    by_cases feed : char = lineFeed
    · subst feed
      cases buf with
      | nil =>
        rw [pairExecute_feed scan iter fresh] at done
        cases done
      | cons second buf =>
        by_cases blank : second = carriageReturn
        · rw [blank,pairExecute_blank scan iter buf fresh] at done
          cases done
          exact Or.inl (by rw [blank])
        · have zero' : second ≠ nul := by
            intro zero'
            simp [pairExecute,fresh,Pair.reset,zero,zero'] at done
          rw [pairExecute_start scan iter buf fresh zero' blank] at done
          obtain ⟨tail,value,more,rfl,inside,accepts⟩ := naming_finish rfl done
          exact Or.inr ⟨⟨second,tail,value,⟨zero',blank⟩,inside⟩,more,by cases value
            <;> simp [Line.bytes,Line.name],
            accepts⟩
    · rw [pairExecute_outside scan iter char buf (by rw [fresh]; rfl) zero feed] at done
      cases done

theorem Accepts.lines (accepts : Accepts later stop rest buf) :
    ∃ lines, buf = linesBytes lines ++ lineFeed::carriageReturn::rest := by
  induction length : buf.length using Nat.strongRecOn generalizing buf with
  | ind size ih =>
    rcases accepts.cases with blank | ⟨line,more,rfl,further⟩
    · exact ⟨[],blank⟩
    · have shorter : more.length < size := by
        rw [← length,length_append]
        have : 0 < line.bytes.length := Nat.zero_lt_succ _
        omega
      obtain ⟨lines,split⟩ := ih more.length shorter further rfl
      refine ⟨line::lines,?_⟩
      rw [split,← append_assoc]
      rfl

end

variable {addr : Nat} {command : Command} {next : List Command} {parser : Parser} {buf : Bytes}

theorem parseWith_finish (done : (parser.parseWith always (command::next) addr buf).2 = .handleFinish) :
    ∃ scan stop rest, execute parser.isRequest always command parser.scan addr buf =
      (scan,.handleFinish,stop,rest) := by
  rw [Parser.parseWith] at done
  generalize execute parser.isRequest always command parser.scan addr buf = outcome at done ⊢
  obtain ⟨scan,res,stop,rest⟩ := outcome
  cases res with
  | handleError | handleContinue => cases done
  | handleFinish => exact ⟨scan,stop,rest,rfl⟩

theorem parseWith_layout_finish {token : Token} {ends : UInt8}
    (ending : token.endChar parser.isRequest = ends)
    (more : next ≠ []) (fresh : parser.scan.begins token = none)
    (done : (parser.parseWith always (.token token::next) addr buf).2 = .handleFinish) :
    ∃ (word : Word ends) (rest : Bytes), buf = word.bytes ++ rest ∧
      ((parser.behind next (parser.scan.afterWord token addr word) word.bytes.length).parseWith always next
        (addr+word.bytes.length) rest).2 = .handleFinish := by
  obtain ⟨scan,stop,rest,ran⟩ := parseWith_finish done
  obtain ⟨word,rfl⟩ := doExecute_finish ending fresh ran
  rw [parseWith_layout more ending fresh] at done
  exact ⟨word,rest,rfl,done⟩

theorem parseWith_headEnd (rest : Bytes) : parser.parseWith always [.headEnd] addr (lineFeed::rest) =
      ({parser.behind [] parser.scan 1 with headFinished := true},.handleFinish) := by
  have ended : execute parser.isRequest always .headEnd parser.scan addr (lineFeed::rest) =
    (parser.scan,.handleFinish,addr+1,rest) := rfl
  rw [Parser.parseWith,ended]
  dsimp only
  rw [Nat.add_sub_cancel_left]
  rfl

theorem parseWith_lines (lines : List Line) (rest : Bytes) (fresh : parser.scan.pair = .reset) :
    parser.parseWith always [.nameValuePair,.headEnd] addr
        (linesBytes lines ++ ([lineFeed,carriageReturn,lineFeed] ++ rest)) =
      ({parser.behind [] {parser.scan with events := parser.scan.events ++ linesEvents addr lines}
        ((linesBytes lines ++ [lineFeed,carriageReturn,lineFeed]).length) with
          headFinished := true},.handleFinish) := by
  have paired : execute parser.isRequest always .nameValuePair parser.scan addr
      (linesBytes lines ++ ([lineFeed,carriageReturn,lineFeed] ++ rest)) =
        ({parser.scan with events := parser.scan.events ++ linesEvents addr lines},.handleFinish,
          addr+((linesBytes lines).length+2),lineFeed::rest) := by
    rw [execute,pairExecute_lines lines parser.scan addr _ fresh]
    exact pairExecute_blank _ _ _ fresh
  rw [parseWith_next (by simp) paired,parseWith_headEnd,length_append]
  rfl

theorem parseWith_lines_finish (fresh : parser.scan.pair = .reset)
    (done : (parser.parseWith always [.nameValuePair,.headEnd] addr buf).2 = .handleFinish) :
    ∃ lines rest, buf = linesBytes lines ++ ([lineFeed,carriageReturn,lineFeed] ++ rest) := by
  obtain ⟨scan,stop,rest,ran⟩ := parseWith_finish done
  obtain ⟨lines,rfl⟩ := Accepts.lines ⟨parser.scan,addr,fresh,ran⟩
  have length : ∃ length, stop = addr + length := by
    obtain ⟨used,_,place⟩ := execute_rest ran
    exact ⟨used.length,place⟩
  obtain ⟨length,rfl⟩ := length
  rw [parseWith_next (by simp) ran] at done
  obtain ⟨_,_,rest',ended⟩ := parseWith_finish done
  cases rest with
  | nil => cases ended
  | cons char rest =>
    have feed : char = lineFeed := by
      by_contra other
      rw [execute,headEndExecute] at ended
      split_ifs at ended
      · cases ended
      · cases ended
    exact ⟨lines,rest,by rw [feed]; rfl⟩

theorem Layout.parse_bytes (layout : Layout) (isRequest : Bool) (addr : Nat) (rest : Bytes) :
    ∃ later, (Parser.reset isRequest).parse always addr (layout.bytes ++ rest) = (later,.handleFinish) ∧
      later.headLength = layout.bytes.length ∧ later.scan.events = layout.events isRequest addr := by
  obtain ⟨firstEnd,secondEnd,thirdEnd⟩ := tokens_ends isRequest
  obtain ⟨second,third,third'⟩ := tokens_distinct isRequest
  have shape : layout.bytes ++ rest = layout.first.bytes ++ (layout.second.bytes ++ (layout.third.bytes ++
      (linesBytes layout.lines ++ ([lineFeed,carriageReturn,lineFeed] ++ rest)))) := by
    simp only [Layout.bytes,append_assoc]
  rw [shape,Parser.parse,show (Parser.reset isRequest).commands = _ from chain_tokens isRequest,
    parseWith_layout (by simp) firstEnd rfl layout.first,
    parseWith_layout (by simp) secondEnd (afterWord_begins second rfl _ _) layout.second,
    parseWith_layout (by simp) thirdEnd
      (afterWord_begins third' (afterWord_begins third rfl _ _) _ _) layout.third,
    parseWith_lines layout.lines rest rfl]
  refine ⟨_,rfl,?_,?_⟩
  · simp only [Parser.behind,Parser.reset,Layout.bytes,length_append]
    omega
  · rfl

theorem Layout.of_finish {isRequest : Bool} {input : Bytes}
    (done : ((Parser.reset isRequest).parse always addr input).2 = .handleFinish) :
    ∃ (layout : Layout) (rest : Bytes), input = layout.bytes ++ rest := by
  obtain ⟨firstEnd,secondEnd,thirdEnd⟩ := tokens_ends isRequest
  obtain ⟨nodup,distinct',distinct''⟩ := tokens_distinct isRequest
  rw [Parser.parse,show (Parser.reset isRequest).commands = _ from chain_tokens isRequest] at done
  obtain ⟨first,rest,rfl,behindFirst⟩ := parseWith_layout_finish firstEnd (by simp) rfl done
  obtain ⟨second,rest,rfl,behindSecond⟩ := parseWith_layout_finish secondEnd (by simp)
    (afterWord_begins nodup rfl _ _) behindFirst
  obtain ⟨third,rest,rfl,behindThird⟩ := parseWith_layout_finish thirdEnd (by simp)
    (afterWord_begins distinct'' (afterWord_begins distinct' rfl _ _) _ _) behindSecond
  obtain ⟨lines,rest,rfl⟩ := parseWith_lines_finish rfl behindThird
  refine ⟨⟨first,second,third,lines⟩,rest,?_⟩
  simp only [Layout.bytes,append_assoc]

end Mooon.Http

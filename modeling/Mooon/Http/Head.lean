import Mooon.Http.Words

/-! The heads the parser is for, and when one that arrives in pieces is parsed as a whole.
Two things decide it. A text that is empty takes the carriage return behind it for its
first byte and runs on to the next line, and a piece must not end behind the line feed of
a line, unless the text of the line before still runs on there. -/
namespace Mooon.Http
open Net (Bytes HandleResult)
open List

def Plain (char : UInt8) : Prop := char ≠ nul ∧ char ≠ carriageReturn ∧ char ≠ lineFeed

instance (char : UInt8) : Decidable (Plain char) := inferInstanceAs (Decidable (_ ∧ _))

structure Field where
  name : Bytes
  spaces : Nat
  value : Bytes
  named : name ≠ []
  nameBytes : ∀ char ∈ name, Plain char ∧ char ≠ colon
  valueBytes : ∀ char ∈ value, Plain char
  trimmed : value.head? ≠ some space

structure Head where
  isRequest : Bool
  first : Bytes
  second : Bytes
  third : Bytes
  fields : List Field
  firstWord : first ≠ [] ∧ ∀ char ∈ first, Plain char ∧ char ≠ space
  secondWord : second ≠ [] ∧ ∀ char ∈ second, Plain char ∧ char ≠ space
  thirdBytes : ∀ char ∈ third, Plain char
  thirdTrimmed : third.head? ≠ some space
  version : isRequest = true → third ≠ []

def Field.bytes (field : Field) : Bytes :=
  lineFeed :: (field.name ++ colon :: (List.replicate field.spaces space ++ field.value ++ [carriageReturn]))

def Head.startLine (head : Head) : Bytes :=
  head.first ++ space :: (head.second ++ space :: (head.third ++ [carriageReturn]))

def Head.lines (head : Head) (count : Nat) : Bytes :=
  head.startLine ++ ((head.fields.take count).map Field.bytes).flatten

def Head.bytes (head : Head) : Bytes := head.lines head.fields.length ++ [lineFeed,carriageReturn,lineFeed]

def runsOnAfter (before : Bool) (field : Field) : Bool := !before && field.value.isEmpty

def Head.runsOn (head : Head) (count : Nat) : Bool :=
  (head.fields.take count).foldl runsOnAfter head.third.isEmpty

/-- Where the parser stands behind the carriage return of a line, by whether a text runs on there. -/
inductive Between : Bool → Parser → Prop where
  | behind (parser : Parser) (commands : parser.commands = [.nameValuePair,.headEnd])
      (fresh : parser.scan.pair = .reset) : Between false parser
  | describing (parser : Parser) (start : Nat) (response : parser.isRequest = false)
      (commands : parser.commands = [.token .describe,.nameValuePair,.headEnd])
      (begun : parser.scan.begins .describe = some start) (fresh : parser.scan.pair = .reset) :
        Between true parser
  | valuing (parser : Parser) (nameBegin nameEnd valueBegin : Nat)
      (commands : parser.commands = [.nameValuePair,.headEnd])
      (begun : parser.scan.pair = ⟨true,some nameBegin,some nameEnd,some valueBegin⟩) : Between true parser

def Passes (parser : Parser) (address : Nat) (piece : Bytes) (runsOn : Bool) : Prop :=
  ∃ later, parser.parse always address piece = (later,.handleContinue) ∧ Between runsOn later ∧
    later.headLength = parser.headLength + piece.length

theorem Field.bytes_inside (field : Field) : ∃ text, field.bytes = text ++ [carriageReturn] ∧
    ∀ char ∈ text, char ≠ nul ∧ char ≠ carriageReturn := by
  refine ⟨lineFeed :: (field.name ++ colon :: (replicate field.spaces space ++ field.value)),
    by simp [Field.bytes],?_⟩
  intro char mem
  simp only [mem_cons,mem_append,mem_replicate] at mem
  rcases mem with rfl | named | rfl | ⟨-,rfl⟩ | valued
  · decide
  · exact ⟨(field.nameBytes char named).1.1,(field.nameBytes char named).1.2.1⟩
  · decide
  · decide
  · exact ⟨(field.valueBytes char valued).1,(field.valueBytes char valued).2.1⟩

theorem Field.exists_line (field : Field) (value : Option (Word carriageReturn)) :
    ∃ line : Line, line.name = field.name ∧ line.value = value := by
  obtain ⟨char,tail,name⟩ := exists_cons_of_ne_nil field.named
  have bytes := field.nameBytes
  rw [name] at bytes ⊢
  obtain ⟨⟨first,-⟩,inside⟩ := forall_mem_cons.mp bytes
  refine ⟨⟨char,tail,value,⟨first.1,first.2.1⟩,fun other mem => ?_⟩,rfl,rfl⟩
  obtain ⟨⟨zero,ends,-⟩,other⟩ := inside other mem
  exact ⟨zero,ends,other⟩

theorem Field.exists_value (field : Field) (valued : field.value ≠ []) :
    ∃ value : Word carriageReturn, value.text = field.value ∧ value.spaces = field.spaces :=
  Word.exists_text carriageReturn field.spaces valued
    (fun char mem => ⟨(field.valueBytes char mem).1,(field.valueBytes char mem).2.1⟩) field.trimmed

theorem describe_ends (isRequest : Bool) : Token.describe.endChar isRequest = carriageReturn := rfl

variable {runsOn : Bool} {parser : Parser}

theorem Between.field (between : Between runsOn parser) (addr : Nat)
    (field : Field) : Passes parser addr field.bytes (runsOnAfter runsOn field) := by
  cases between with
  | behind parser cmds fresh =>
    rw [Passes,Parser.parse,cmds,Parser.parseWith,execute,runsOnAfter]
    by_cases empty : field.value = []
    · -- the carriage return becomes the first byte of the value
      obtain ⟨line,name,-⟩ := field.exists_line none
      rw [Field.bytes,empty,append_nil,← name,pairExecute_name _ _ _ fresh,
        pairExecute_round rfl (by decide) (naming_colon rfl),pairExecute_spaces rfl,
        pairExecute_round rfl (by decide) (spacing_first rfl (by decide)),pairExecute]
      refine ⟨_,rfl,.valuing _ _ _ _ cmds rfl,?_⟩
      simp
      omega
    · obtain ⟨value,text,spaces⟩ := field.exists_value empty
      obtain ⟨line,name,valued⟩ := field.exists_line (some value)
      have shape : field.bytes = line.bytes := by
        simp [Field.bytes,Line.bytes,name,valued,Word.bytes,text,spaces]
      have passed := pairExecute_line parser.scan addr [] fresh line
      rw [append_nil] at passed
      rw [shape,passed,pairExecute,isEmpty_eq_false_iff.mpr empty]
      refine ⟨_,rfl,.behind _ cmds fresh,?_⟩
      simp
  | describing parser start resp cmds begun fresh =>
    obtain ⟨text,shape,inside⟩ := field.bytes_inside
    rw [shape,Passes,Parser.parse,cmds,Parser.parseWith,execute,doExecute_text (describe_ends _) begun inside]
    refine ⟨_,rfl,.behind _ rfl fresh,?_⟩
    simp
    omega
  | valuing parser nameBegin nameEnd valueBegin cmds begun =>
    obtain ⟨text,shape,inside⟩ := field.bytes_inside
    rw [shape,Passes,Parser.parse,cmds,Parser.parseWith,execute,pairExecute_value begun inside]
    refine ⟨_,rfl,.behind _ cmds rfl,?_⟩
    simp
    omega

theorem feed_inside : ∀ char ∈ [lineFeed], char ≠ nul ∧ char ≠ carriageReturn :=
  forall_mem_singleton.mpr (by decide)

theorem Between.feed (between : Between runsOn parser) (addr : Nat) :
    ∃ later, parser.parse always addr [lineFeed] = (later,.handleContinue) ∧
      (later.commands.head? = some .nameValuePair ∧ later.scan.pair.nameBegin = none ↔ runsOn = false) := by
  cases between with
  | behind parser cmds fresh =>
    rw [Parser.parse,cmds,Parser.parseWith,execute,pairExecute_feed _ _ fresh]
    exact ⟨_,rfl,by simp [cmds,fresh,Pair.reset]⟩
  | describing parser start resp cmds begun fresh =>
    rw [Parser.parse,cmds,Parser.parseWith,execute]
    rw [← append_nil [lineFeed],doExecute_begun begun feed_inside]
    exact ⟨_,rfl,by simp [cmds]⟩
  | valuing parser nameBegin nameEnd valueBegin cmds begun =>
    rw [Parser.parse,cmds,Parser.parseWith,execute]
    rw [← append_nil [lineFeed],pairExecute_skip (by rw [begun]) fun char mem =>
      ⟨(feed_inside char mem).1,fun _ => valuing_round begun (feed_inside char mem).2⟩]
    exact ⟨_,rfl,by simp [begun]⟩

theorem Between.closes (between : Between false parser) (addr : Nat) :
    ∃ later, parser.parse always addr [lineFeed,carriageReturn,lineFeed] = (later,.handleFinish) ∧
      later.headLength = parser.headLength + 3 := by
  cases between with
  | behind parser cmds fresh =>
    rw [Parser.parse,cmds,Parser.parseWith,execute,pairExecute_blank _ _ _ fresh]
    refine ⟨_,rfl,?_⟩
    simp

theorem Between.swallows (between : Between true parser) (addr : Nat) :
    (parser.parse always addr [lineFeed,carriageReturn,lineFeed]).2 = .handleContinue := by
  cases between with
  | describing parser start resp cmds begun fresh =>
    rw [Parser.parse,cmds,Parser.parseWith,execute,← singleton_append,
      doExecute_text (describe_ends _) begun feed_inside]
    simp only [Parser.parseWith,execute,
      pairExecute_feed _ _ (show (parser.scan.emit _).pair = .reset from fresh)]
    rfl
  | valuing parser nameBegin nameEnd valueBegin cmds begun =>
    have valued := pairExecute_value begun feed_inside addr [lineFeed]
    rw [singleton_append,pairExecute_feed _ _ rfl] at valued
    rw [Parser.parse,cmds,Parser.parseWith,execute,valued]

theorem Field.bytes_getLast (field : Field) : field.bytes.getLast? = some carriageReturn := by
  obtain ⟨text,shape,-⟩ := field.bytes_inside
  simp [shape]

theorem Field.bytes_clean (field : Field) : nul ∉ field.bytes := by
  obtain ⟨text,shape,inside⟩ := field.bytes_inside
  rw [shape]
  intro mem
  rcases mem_append.mp mem with mem | mem
  · exact (inside _ mem).1 rfl
  · simp [nul,carriageReturn] at mem

variable {addr : Nat}

theorem Passes.append {piece more : Bytes} {runsOn' : Bool}
    (first : Passes parser addr piece runsOn) (clean : nul ∉ piece)
    (ended : piece.getLast? = some carriageReturn)
    (second : ∀ later, Between runsOn later → Passes later (addr+piece.length) more runsOn') :
    Passes parser addr (piece++more) runsOn' := by
  obtain ⟨middle,parsed,between,length⟩ := first
  obtain ⟨last,further,between',length'⟩ := second middle between
  have settled : Settled always parser addr piece := by
    rw [Settled,parsed]
    exact ⟨rfl,fun pending => by simp [Parser.Pending,ended,carriageReturn,lineFeed] at pending⟩
  have agree := settled.parse_append clean more
  rw [parsed,further] at agree
  have same := agree.2 (by rw [agree.1]; simp)
  exact ⟨last,same,between',by rw [length',length,length_append,Nat.add_assoc]⟩

theorem Parser.parse_nil (parser : Parser) {accept : List Event → Bool} (some : parser.commands ≠ []) :
    parser.parse accept addr [] = (parser,.handleContinue) := by
  obtain ⟨command,next,cmds⟩ := exists_cons_of_ne_nil some
  have stops : execute parser.isRequest accept command parser.scan addr [] =
      (parser.scan,.handleContinue,addr,[]) := by
    cases command <;> simp [execute,doExecute,pairExecute,headEndExecute]
  rw [Parser.parse,cmds,Parser.parseWith,stops]
  simp

theorem Between.commands (between : Between runsOn parser) : parser.commands ≠ [] := by
  cases between with
  | behind _ cmds | describing _ _ _ cmds | valuing _ _ _ _ cmds => simp [cmds]

theorem Between.lines (between : Between runsOn parser) (addr : Nat) (fields : List Field) :
    Passes parser addr (fields.map Field.bytes).flatten (fields.foldl runsOnAfter runsOn) := by
  induction fields generalizing runsOn parser addr with
  | nil => exact ⟨parser,parser.parse_nil between.commands,between,rfl⟩
  | cons field rest ih =>
    exact (between.field addr field).append field.bytes_clean field.bytes_getLast
      (fun later between => ih between _)

variable {word : Bytes}

theorem word_trimmed (plain : ∀ char ∈ word, Plain char ∧ char ≠ space) : word.head? ≠ some space :=
  fun same => (plain space (mem_of_head? same)).2 rfl

theorem word_inside (plain : ∀ char ∈ word, Plain char ∧ char ≠ space) : ∀ char ∈ word, char ≠ nul ∧
    char ≠ space :=
  fun char mem => ⟨(plain char mem).1.1,(plain char mem).2⟩

theorem Head.third_inside (head : Head) : ∀ char ∈ head.third, char ≠ nul ∧ char ≠ carriageReturn :=
  fun char mem => ⟨(head.thirdBytes char mem).1,(head.thirdBytes char mem).2.1⟩

theorem parseWith_begins {token : Token} {next : List Command}
    (fresh : parser.scan.begins token = none) {char : UInt8}
    (zero : char ≠ nul) (other : char ≠ space) : parser.parseWith always (.token token::next) addr [char] =
      ({parser with
        headLength := parser.headLength + 1
        scan.begins := Function.update parser.scan.begins token (some addr)},.handleContinue) := by
  rw [Parser.parseWith,execute,doExecute_begins fresh zero other,doExecute]
  simp

section
variable (head : Head)

theorem Head.startLine_passes :
    Passes (.reset head.isRequest) addr head.startLine head.third.isEmpty := by
  obtain ⟨firstEnd,secondEnd,thirdEnd⟩ := tokens_ends head.isRequest
  obtain ⟨nodup,distinct',distinct''⟩ := tokens_distinct head.isRequest
  obtain ⟨first,firstText,firstSpaces⟩ :=
    Word.exists_text space 0 head.firstWord.1 (word_inside head.firstWord.2)
    (word_trimmed head.firstWord.2)
  obtain ⟨second,secondText,secondSpaces⟩ := Word.exists_text space 0 head.secondWord.1
    (word_inside head.secondWord.2) (word_trimmed head.secondWord.2)
  have shape : head.startLine = first.bytes ++ (second.bytes ++ (head.third ++ [carriageReturn])) := by
    simp [Head.startLine,Word.bytes,firstText,firstSpaces,secondText,secondSpaces]
  rw [Passes,Parser.parse,show (Parser.reset head.isRequest).commands =
    _ from chain_tokens head.isRequest,shape,
    parseWith_layout (by simp) firstEnd rfl first,
    parseWith_layout (by simp) secondEnd (afterWord_begins nodup rfl _ _) second]
  by_cases empty : head.third = []
  · have kind := Bool.eq_false_iff.mpr (fun req => head.version req empty)
    rw [empty,nil_append,parseWith_begins
      (afterWord_begins distinct'' (afterWord_begins distinct' rfl _ _) _ _)
      (by decide) (by decide)]
    refine ⟨_,rfl,.describing _ (addr+first.bytes.length+second.bytes.length) kind ?_ ?_ rfl,?_⟩
    · simp [Parser.behind,kind,tokens]
    · simp [kind,tokens]
    · simp [Parser.behind,Parser.reset]
      omega
  · obtain ⟨third,thirdText,thirdSpaces⟩ :=
      Word.exists_text carriageReturn 0 empty head.third_inside head.thirdTrimmed
    have word : head.third ++ [carriageReturn] = third.bytes ++ [] := by
      simp [Word.bytes,thirdText,thirdSpaces]
    rw [isEmpty_eq_false_iff.mpr empty,word,parseWith_layout (by simp) thirdEnd
      (afterWord_begins distinct'' (afterWord_begins distinct' rfl _ _) _ _) third]
    refine ⟨_,Parser.parse_nil (Parser.behind _ [.nameValuePair,.headEnd] _ _) (by simp [Parser.behind]),
      .behind _ rfl rfl,?_⟩
    simp [Parser.behind,Parser.reset]
    omega

theorem Head.startLine_clean : nul ∉ head.startLine := by
  simp only [Head.startLine,mem_append,mem_cons,not_or]
  exact ⟨fun mem => (head.firstWord.2 _ mem).1.1 rfl,by decide,fun mem => (head.secondWord.2 _ mem).1.1 rfl,
    by decide,fun mem => (head.thirdBytes _ mem).1 rfl,by decide⟩

theorem Head.startLine_getLast : head.startLine.getLast? = some carriageReturn := by
  have shape : head.startLine = (head.first ++ space :: (head.second ++ space :: head.third)) ++
      [carriageReturn] := by
    simp [Head.startLine]
  rw [shape,getLast?_concat]

theorem Head.lines_pass (addr count : Nat) :
    Passes (.reset head.isRequest) addr (head.lines count) (head.runsOn count) :=
  head.startLine_passes.append head.startLine_clean head.startLine_getLast
    (fun _ between => between.lines _ _)

theorem Head.lines_clean (count : Nat) : nul ∉ head.lines count := by
  intro mem
  rcases mem_append.mp mem with mem | mem
  · exact head.startLine_clean mem
  · obtain ⟨bytes,line,mem⟩ := mem_flatten.mp mem
    obtain ⟨field,-,rfl⟩ := mem_map.mp line
    exact field.bytes_clean mem

theorem Head.bytes_clean : nul ∉ head.bytes := by
  rw [Head.bytes,mem_append,not_or]
  exact ⟨head.lines_clean _,by decide⟩

theorem Head.lines_getLast (count : Nat) : (head.lines count).getLast? = some carriageReturn := by
  rw [Head.lines]
  generalize head.fields.take count = fields
  induction fields using reverseRecOn with
  | nil => simpa using head.startLine_getLast
  | append_singleton fields field =>
    obtain ⟨text,shape,-⟩ := field.bytes_inside
    rw [map_append,map_singleton,flatten_append,flatten_singleton,shape,← append_assoc,
      ← append_assoc,getLast?_concat]

theorem Head.lines_settled (addr count : Nat) :
    Settled always (.reset head.isRequest) addr (head.lines count) := by
  obtain ⟨later,parsed,-⟩ := head.lines_pass addr count
  rw [Settled,parsed]
  exact ⟨rfl,fun pending => by simp [Parser.Pending,head.lines_getLast,carriageReturn,lineFeed] at pending⟩

theorem Head.parse_finishes (addr : Nat) (closed : head.runsOn head.fields.length = false) :
    ((Parser.reset head.isRequest).parse always addr head.bytes).2 = .handleFinish ∧
      ((Parser.reset head.isRequest).parse always addr head.bytes).1.headLength = head.bytes.length := by
  obtain ⟨later,parsed,between,length⟩ := head.lines_pass addr head.fields.length
  rw [closed] at between
  obtain ⟨last,ended,length'⟩ := between.closes (addr + (head.lines head.fields.length).length)
  have agree := (head.lines_settled addr head.fields.length).parse_append (head.lines_clean _)
    [lineFeed,carriageReturn,lineFeed]
  rw [parsed,ended] at agree
  rw [Head.bytes,agree.2 (by rw [agree.1]; simp)]
  rw [length',length]
  simp [Parser.reset]

theorem Head.parse_continues (addr : Nat) (swallowed : head.runsOn head.fields.length = true) :
    ((Parser.reset head.isRequest).parse always addr head.bytes).2 = .handleContinue := by
  obtain ⟨later,parsed,between,length⟩ := head.lines_pass addr head.fields.length
  rw [swallowed] at between
  have agree := (head.lines_settled addr head.fields.length).parse_append (head.lines_clean _)
    [lineFeed,carriageReturn,lineFeed]
  rw [parsed,Agree,between.swallows] at agree
  exact agree.1

theorem Head.begin_continues (addr : Nat) (done rest : Bytes) (split : head.bytes = done ++ rest)
    (more : rest ≠ []) : ((Parser.reset head.isRequest).parse always addr done).2 = .handleContinue := by
  by_contra stopped
  have clean : nul ∉ done := fun mem => head.bytes_clean (by simp [split,mem])
  have stays := Parser.parseWith_stays always _ (.reset head.isRequest) addr done rest clean stopped
  rw [← split] at stays
  cases closed : head.runsOn head.fields.length with
  | true =>
    have continues := head.parse_continues addr closed
    rw [Parser.parse,stays] at continues
    exact stopped continues
  | false =>
    obtain ⟨-,length⟩ := head.parse_finishes addr closed
    have bound := Parser.parseWith_headLength always (Parser.reset head.isRequest).commands
      (.reset head.isRequest)
      addr done
    rw [Parser.parse,stays] at length
    rw [length,split,length_append] at bound
    have := length_pos_iff.mpr more
    simp only [Parser.reset] at bound
    omega

theorem Head.feed_pending (addr count : Nat) :
    ((Parser.reset head.isRequest).parse always addr (head.lines count ++ [lineFeed])).1.Pending
      (head.lines count ++ [lineFeed]) ↔ head.runsOn count = false := by
  obtain ⟨later,parsed,between,-⟩ := head.lines_pass addr count
  obtain ⟨last,fed,place⟩ := between.feed (addr + (head.lines count).length)
  have agree := (head.lines_settled addr count).parse_append (head.lines_clean _) [lineFeed]
  rw [parsed,fed] at agree
  rw [agree.2 (by rw [agree.1]; simp),← place,Parser.Pending]
  simp

end

end Mooon.Http

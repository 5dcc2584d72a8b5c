import Mooon.Http.Resume

/-! What the commands do with the texts they look for. A word of the start line begins at the first
byte that is no space, whatever it is, and so does the value of a line; a line need not have a
value. -/
namespace Mooon.Http
open Net (Bytes HandleResult)
open List Function

def always : List Event → Bool := fun _ => true

/-- A text with the spaces in front of it and the byte that ends it. Only behind its first byte is
that byte looked for. -/
structure Word (ends : UInt8) where
  spaces : Nat
  first : UInt8
  tail : Bytes
  begins : first ≠ nul ∧ first ≠ space
  inside : ∀ char ∈ tail, char ≠ nul ∧ char ≠ ends

/-- A line of the head; one without a colon has no value. -/
structure Line where
  first : UInt8
  tail : Bytes
  value : Option (Word carriageReturn)
  begins : first ≠ nul ∧ first ≠ carriageReturn
  inside : ∀ char ∈ tail, char ≠ nul ∧ char ≠ carriageReturn ∧ char ≠ colon

def Word.text {ends : UInt8} (word : Word ends) : Bytes := word.first::word.tail

def Word.bytes {ends : UInt8} (word : Word ends) : Bytes :=
  List.replicate word.spaces space ++ (word.text ++ [ends])

def Line.name (line : Line) : Bytes := line.first::line.tail

def Line.bytes (line : Line) : Bytes :=
  lineFeed :: (line.name ++ match line.value with
    | none => [carriageReturn]
    | some value => colon::value.bytes)

def Word.event {ends : UInt8} (word : Word ends) (token : Token) (address : Nat) : Event :=
  .onToken token (address+word.spaces) (address+word.spaces+word.text.length)

def Line.event (line : Line) (address : Nat) : Event :=
  let nameBegin := address + 1
  let nameEnd := nameBegin + line.name.length
  match line.value with
  | none => .onNameValuePair nameBegin none none nameEnd
  | some value =>
    let valueBegin := nameEnd + 1 + value.spaces
    .onNameValuePair nameBegin (some nameEnd) (some valueBegin) (valueBegin + value.text.length)

theorem Word.exists_text (ends : UInt8) (spaces : Nat) {text : Bytes} (nonempty : text ≠ [])
    (plain : ∀ char ∈ text, char ≠ nul ∧ char ≠ ends) (trimmed : text.head? ≠ some space) :
    ∃ word : Word ends, word.text = text ∧ word.spaces = spaces := by
  obtain ⟨char,tail,rfl⟩ := exists_cons_of_ne_nil nonempty
  obtain ⟨⟨zero,-⟩,inside⟩ := forall_mem_cons.mp plain
  exact ⟨⟨spaces,char,tail,⟨zero,by simpa using trimmed⟩,inside⟩,rfl,rfl⟩

theorem Word.places {ends : UInt8} (word : Word ends) (iter : Nat) :
    iter + word.spaces + 1 + word.tail.length = iter + word.spaces + word.text.length ∧
      iter + word.spaces + word.text.length + 1 = iter + word.bytes.length := by
  simp only [Word.bytes,Word.text,length_append,length_replicate,length_cons,length_nil]
  omega

section
variable {isRequest : Bool} {token : Token} {scan : Scan} {start : Nat} {text : Bytes}

theorem doExecute_begun (begun : scan.begins token = some start)
    (inside : ∀ char ∈ text, char ≠ nul ∧ char ≠ token.endChar isRequest) (iter : Nat) (rest : Bytes) :
    doExecute isRequest always token scan iter (text++rest) =
      doExecute isRequest always token scan (iter+text.length) rest := by
  induction text generalizing iter with
  | nil => rfl
  | cons char text ih =>
    obtain ⟨⟨zero,other⟩,inside⟩ := forall_mem_cons.mp inside
    rw [cons_append,doExecute,if_neg zero]
    simp only [begun,if_neg other]
    rw [ih inside,length_cons,Nat.add_right_comm,Nat.add_assoc]

theorem doExecute_end (begun : scan.begins token = some start) (iter : Nat) (rest : Bytes) :
    doExecute isRequest always token scan iter (token.endChar isRequest::rest) =
      (scan.emit (.onToken token start iter),.handleFinish,iter+1,rest) := by
  have zero : token.endChar isRequest ≠ nul := by cases token <;> cases isRequest <;> decide
  simp [doExecute,begun,zero,always]

variable (fresh : scan.begins token = none)
include fresh

theorem doExecute_begins {char : UInt8} (zero : char ≠ nul) (other : char ≠ space) (iter : Nat)
    (rest : Bytes) : doExecute isRequest always token scan iter (char::rest) =
      doExecute isRequest always token {scan with begins := update scan.begins token (some iter)}
        (iter+1) rest := by
  rw [doExecute,if_neg zero]
  simp only [fresh,if_neg other]

theorem doExecute_spaces (iter count : Nat) (rest : Bytes) :
    doExecute isRequest always token scan iter (replicate count space ++ rest) =
      doExecute isRequest always token scan (iter+count) rest := by
  induction count generalizing iter with
  | zero => rfl
  | succ count ih =>
    rw [replicate_succ,cons_append,doExecute,if_neg (by decide)]
    simp only [fresh,if_true]
    rw [ih,Nat.add_right_comm,Nat.add_assoc]

variable {ends : UInt8} (ending : token.endChar isRequest = ends)
include ending

omit fresh in
theorem doExecute_text (begun : scan.begins token = some start)
    (inside : ∀ char ∈ text, char ≠ nul ∧ char ≠ ends) (iter : Nat) (rest : Bytes) :
    doExecute isRequest always token scan iter (text ++ ends::rest) =
      (scan.emit (.onToken token start (iter+text.length)),.handleFinish,iter+text.length+1,rest) := by
  subst ending
  rw [doExecute_begun begun inside,doExecute_end begun]

theorem doExecute_layout (word : Word ends) (iter : Nat) (rest : Bytes) :
    doExecute isRequest always token scan iter (word.bytes ++ rest) =
      ({scan with begins := update scan.begins token (some (iter+word.spaces))}.emit (word.event token iter),
        .handleFinish,iter+word.bytes.length,rest) := by
  obtain ⟨stop,place⟩ := word.places iter
  have shape : word.bytes ++ rest = replicate word.spaces space ++
      (word.first :: (word.tail ++ ends::rest)) := by
    simp [Word.bytes,Word.text]
  rw [shape,doExecute_spaces fresh,doExecute_begins fresh word.begins.1 word.begins.2,
    doExecute_text ending (update_self _ _ _) word.inside,stop,place]
  rfl

end

def Pair.naming (nameBegin : Nat) : Pair := ⟨false,some nameBegin,none,none⟩

def Pair.spacing (nameBegin nameEnd : Nat) : Pair := ⟨true,some nameBegin,some nameEnd,none⟩

def Pair.valuing (nameBegin nameEnd valueBegin : Nat) : Pair :=
  ⟨true,some nameBegin,some nameEnd,some valueBegin⟩

section
variable {scan : Scan} {nameBegin iter : Nat} {char : UInt8}

section
variable (naming : scan.pair = .naming nameBegin)
include naming

theorem naming_round (ends : char ≠ carriageReturn) (other : char ≠ colon) :
    pairRound always scan nameBegin iter char = (scan,true) := by
  simp [pairRound,naming,Pair.naming,ends,other]

theorem naming_return : pairRound always scan nameBegin iter carriageReturn =
      ({scan.emit (.onNameValuePair nameBegin none none iter) with pair := .reset},true) := by
  simp [pairRound,naming,Pair.naming,always]

theorem naming_colon :
    pairRound always scan nameBegin iter colon = ({scan with pair := .spacing nameBegin iter},true) := by
  simp [pairRound,naming,Pair.naming,Pair.spacing,show colon ≠ carriageReturn by decide]

end

variable {nameEnd : Nat}

theorem spacing_space (spacing : scan.pair = .spacing nameBegin nameEnd) :
    pairRound always scan nameBegin iter space = (scan,true) := by
  simp [pairRound,spacing,Pair.spacing]

theorem spacing_first (spacing : scan.pair = .spacing nameBegin nameEnd) (other : char ≠ space) :
    pairRound always scan nameBegin iter char =
      ({scan with pair := .valuing nameBegin nameEnd iter},true) := by
  simp [pairRound,spacing,Pair.spacing,Pair.valuing,other]

variable {valueBegin : Nat}

section
variable (valuing : scan.pair = .valuing nameBegin nameEnd valueBegin)
include valuing

theorem valuing_round
    (ends : char ≠ carriageReturn) : pairRound always scan nameBegin iter char = (scan,true) := by
  simp [pairRound,valuing,Pair.valuing,ends]

theorem valuing_return :
    pairRound always scan nameBegin iter carriageReturn =
      ({scan.emit (.onNameValuePair nameBegin (some nameEnd) (some valueBegin) iter) with
        pair := .reset},true) := by
  simp [pairRound,valuing,Pair.valuing,always]

end

theorem pairExecute_round {next : Scan} (begun : scan.pair.nameBegin = some nameBegin) (zero : char ≠ nul)
    (round : pairRound always scan nameBegin iter char = (next,true)) (rest : Bytes) :
    pairExecute always scan iter (char::rest) = pairExecute always next (iter+1) rest := by
  rw [pairExecute_inside scan nameBegin iter char rest begun zero,round]

theorem pairExecute_skip {text : Bytes} (begun : scan.pair.nameBegin = some nameBegin)
    (inside : ∀ char ∈ text, char ≠ nul ∧ ∀ iter, pairRound always scan nameBegin iter char =
      (scan,true)) (iter : Nat)
    (rest : Bytes) : pairExecute always scan iter (text++rest) =
      pairExecute always scan (iter+text.length) rest := by
  induction text generalizing iter with
  | nil => rfl
  | cons char text ih =>
    obtain ⟨⟨zero,passed⟩,inside⟩ := forall_mem_cons.mp inside
    rw [cons_append,pairExecute_round begun zero (passed iter),ih inside,length_cons,
      Nat.add_right_comm,Nat.add_assoc]

theorem pairExecute_spaces (spacing : scan.pair = .spacing nameBegin nameEnd) (iter count : Nat)
    (rest : Bytes) : pairExecute always scan iter (replicate count space ++ rest) =
      pairExecute always scan (iter+count) rest := by
  have passed : ∀ char ∈ replicate count space, char ≠ nul ∧ ∀ iter,
      pairRound always scan nameBegin iter char = (scan,true) := by
    intro char mem
    cases eq_of_mem_replicate mem
    exact ⟨by decide,fun _ => spacing_space spacing⟩
  rw [pairExecute_skip (by rw [spacing]; rfl) passed,length_replicate]

theorem pairExecute_value {text : Bytes} (valuing : scan.pair = .valuing nameBegin nameEnd valueBegin)
    (inside : ∀ char ∈ text, char ≠ nul ∧ char ≠ carriageReturn) (iter : Nat) (rest : Bytes) :
    pairExecute always scan iter (text ++ carriageReturn::rest) =
      pairExecute always {scan.emit
        (.onNameValuePair nameBegin (some nameEnd) (some valueBegin) (iter+text.length)) with
        pair := .reset} (iter+text.length+1) rest := by
  have begun : scan.pair.nameBegin = some nameBegin := by rw [valuing]; rfl
  rw [pairExecute_skip begun fun char mem => ⟨(inside char mem).1,fun _ =>
    valuing_round valuing (inside char mem).2⟩,pairExecute_round begun (by decide) (valuing_return valuing)]

end

section
variable (scan : Scan) (iter : Nat) (rest : Bytes)

theorem pairExecute_word (value : Word carriageReturn) {nameBegin nameEnd : Nat}
    (spacing : scan.pair = .spacing nameBegin nameEnd) : pairExecute always scan iter (value.bytes ++ rest) =
      pairExecute always {scan.emit (.onNameValuePair nameBegin (some nameEnd) (some (iter+value.spaces))
        (iter+value.spaces+value.text.length)) with pair := .reset} (iter+value.bytes.length) rest := by
  obtain ⟨stop,place⟩ := value.places iter
  have shape : value.bytes ++ rest =
      replicate value.spaces space ++ (value.first :: (value.tail ++ carriageReturn::rest)) := by
    simp [Word.bytes,Word.text]
  rw [shape,pairExecute_spaces spacing,
    pairExecute_round (by rw [spacing]; rfl) value.begins.1 (spacing_first spacing value.begins.2),
    pairExecute_value rfl value.inside,stop,place]
  rfl

variable (fresh : scan.pair = .reset)
include fresh

theorem pairExecute_feed : pairExecute always scan iter [lineFeed] = (scan,.handleContinue,iter+1,[]) := by
  simp [pairExecute,fresh,Pair.reset,show lineFeed ≠ nul by decide]

theorem pairExecute_blank :
    pairExecute always scan iter (lineFeed::carriageReturn::rest) = (scan,.handleFinish,iter+2,rest) := by
  simp [pairExecute,fresh,Pair.reset,show lineFeed ≠ nul by decide,show carriageReturn ≠ nul by decide]

theorem pairExecute_start {char : UInt8} (zero : char ≠ nul) (other : char ≠ carriageReturn) :
    pairExecute always scan iter (lineFeed::char::rest) =
      pairExecute always {scan with pair := .naming (iter+1)} (iter+2) rest := by
  have feed : lineFeed ≠ nul := by decide
  simp [pairExecute,fresh,Pair.reset,feed,zero,other,Pair.naming]

theorem pairExecute_name (line : Line) : pairExecute always scan iter (lineFeed :: (line.name ++ rest)) =
    pairExecute always {scan with pair := .naming (iter+1)} (iter + 1 + line.name.length) rest := by
  have named : iter + 2 + line.tail.length = iter + 1 + line.name.length := by
    rw [Line.name,length_cons]
    omega
  rw [← named]
  refine (pairExecute_start scan iter _ fresh line.begins.1 line.begins.2).trans (pairExecute_skip rfl ?_ _ _)
  intro char mem
  obtain ⟨zero,ends,other⟩ := line.inside char mem
  exact ⟨zero,fun _ => naming_round rfl ends other⟩

theorem pairExecute_line (line : Line) : pairExecute always scan iter (line.bytes ++ rest) =
    pairExecute always (scan.emit (line.event iter)) (iter+line.bytes.length) rest := by
  have kept : ∀ event, (⟨scan.begins,.reset,scan.events++[event]⟩ : Scan) = scan.emit event := by
    intro event
    rw [← fresh]
    rfl
  unfold Line.bytes Line.event
  cases line.value with
  | none =>
    have place : iter + 1 + line.name.length + 1 =
        iter + (lineFeed :: (line.name ++ [carriageReturn])).length := by
      simp only [length_cons,length_append,length_nil]
      omega
    rw [cons_append,append_assoc,singleton_append,pairExecute_name scan iter _ fresh,
      pairExecute_round rfl (by decide) (naming_return rfl),place,← kept]
    rfl
  | some value =>
    have place : iter + 1 + line.name.length + 1 + value.bytes.length =
        iter + (lineFeed :: (line.name ++ colon::value.bytes)).length := by
      simp only [length_cons,length_append]
      omega
    dsimp only
    rw [cons_append,append_assoc,cons_append,pairExecute_name scan iter _ fresh,
      pairExecute_round rfl (by decide) (naming_colon rfl),pairExecute_word _ _ _ value rfl,place,← kept]
    rfl

end

def Parser.behind (parser : Parser) (next : List Command) (scan : Scan) (length : Nat) : Parser :=
  {parser with headLength := parser.headLength + length, commands := next, scan := scan}

def Scan.afterWord {ends : UInt8} (scan : Scan) (token : Token) (address : Nat) (word : Word ends) : Scan :=
  {scan with begins := update scan.begins token (some (address+word.spaces))}.emit (word.event token address)

section
variable {parser : Parser} {next : List Command} {addr : Nat} {rest : Bytes} (more : next ≠ [])
include more

theorem parseWith_next {command : Command} {buf : Bytes} {scan : Scan} {length : Nat}
    (done : execute parser.isRequest always command parser.scan addr buf =
      (scan,.handleFinish,addr+length,rest)) : parser.parseWith always (command::next) addr buf =
      (parser.behind next scan length).parseWith always next (addr+length) rest := by
  rw [Parser.parseWith,done]
  dsimp only
  rw [if_neg more,Nat.add_sub_cancel_left]
  rfl

theorem parseWith_layout {token : Token} {ends : UInt8} (ending : token.endChar parser.isRequest = ends)
    (fresh : parser.scan.begins token = none) (word : Word ends) :
    parser.parseWith always (.token token::next) addr (word.bytes ++ rest) =
      (parser.behind next (parser.scan.afterWord token addr word) word.bytes.length).parseWith always next
        (addr+word.bytes.length) rest :=
  parseWith_next more (doExecute_layout fresh ending word addr rest)

end

def tokens : Bool → Token × Token × Token
  | true => (.method,.url,.version)
  | false => (.version,.code,.describe)

section
variable (isRequest : Bool)

theorem chain_tokens : chain isRequest =
    [.token (tokens isRequest).1,.token (tokens isRequest).2.1,.token (tokens isRequest).2.2,
      .nameValuePair,.headEnd] := by
  cases isRequest <;> rfl

theorem tokens_ends : (tokens isRequest).1.endChar isRequest = space ∧
    (tokens isRequest).2.1.endChar isRequest = space ∧ (tokens isRequest).2.2.endChar isRequest =
      carriageReturn := by
  cases isRequest <;> decide

theorem tokens_distinct : (tokens isRequest).2.1 ≠ (tokens isRequest).1 ∧
    (tokens isRequest).2.2 ≠ (tokens isRequest).1 ∧ (tokens isRequest).2.2 ≠ (tokens isRequest).2.1 := by
  cases isRequest <;> decide

end

theorem afterWord_begins {ends : UInt8} {token other : Token} {scan : Scan} (nodup : other ≠ token)
    (fresh : scan.begins other = none) (addr : Nat) (word : Word ends) :
    (scan.afterWord token addr word).begins other = none := by
  rw [← fresh]
  exact update_of_ne nodup _ _

end Mooon.Http

import Mooon.Http.RoundTrip

/-! Where the body begins. The parser never looks for the blank line: the end of the head is where
its commands have ended, which is behind the first blank line unless a text has taken that line with
it. -/
namespace Mooon.Http
open Net (Bytes HandleResult)
open List Option

def blankLine : Bytes := crlf ++ crlf

def bodyStart : Bytes → Option Nat
  | [] => none
  | char::rest => if blankLine <+: char::rest then some blankLine.length else (bodyStart rest).map (· + 1)

/-- No word of the start line has a blank line, and neither its last text nor a value is a line end. -/
def Layout.Clear (layout : Layout) : Prop :=
  ¬ blankLine <:+: layout.first.text ∧ ¬ blankLine <:+: layout.second.text ∧ layout.third.text ≠ crlf ∧
    ∀ line ∈ layout.lines, ∀ value ∈ line.value, value.text ≠ crlf

/-- No blank line begins in a text, whatever of it is behind the text. -/
def Free : Bytes → Bytes → Prop
  | [], _ => True
  | char::text, rest => ¬ blankLine <+: char::(text++rest) ∧ Free text rest

theorem free_append {first second rest : Bytes} :
    Free (first++second) rest ↔ Free first (second++rest) ∧ Free second rest := by
  induction first with
  | nil => exact (and_iff_right trivial).symm
  | cons char first ih => rw [cons_append,Free,Free,ih,and_assoc,append_assoc]

variable {text : Bytes} {rest : Bytes}

theorem bodyStart_iff (blank : blankLine <+: rest) :
    bodyStart (text++rest) = some (text.length + blankLine.length) ↔ Free text rest := by
  induction text with
  | nil =>
    refine iff_of_true ?_ trivial
    obtain ⟨after,rfl⟩ := blank
    exact if_pos (prefix_append _ _)
  | cons char text ih =>
    rw [cons_append,bodyStart]
    split_ifs with here
    · refine iff_of_false ?_ (fun free => free.1 here)
      rw [Option.some.injEq,length_cons]
      omega
    · have next : (bodyStart (text++rest)).map (· + 1) = some ((char::text).length + blankLine.length) ↔
          bodyStart (text++rest) = some (text.length + blankLine.length) := by
        rw [map_eq_some_iff,length_cons]
        constructor
        · rintro ⟨place,found,same⟩
          rw [found,Option.some.injEq]
          omega
        · intro found
          exact ⟨_,found,by omega⟩
      rw [next,ih]
      exact (and_iff_right here).symm

variable {char : UInt8}

theorem blankLine_cons : blankLine <+: char::rest ↔ char = carriageReturn ∧ lineFeed::crlf <+: rest := by
  rw [blankLine,crlf,cons_append,cons_prefix_cons,eq_comm]
  rfl

theorem free_plain (plain : ∀ char ∈ text, char ≠ carriageReturn) (rest : Bytes) : Free text rest := by
  induction text with
  | nil => trivial
  | cons char text ih =>
    obtain ⟨first,later⟩ := forall_mem_cons.mp plain
    exact ⟨fun blank => first (blankLine_cons.mp blank).1,ih later⟩

theorem prefix_of_append_cons {line : Bytes} (other : char ∉ line)
    (begins : line <+: text ++ char::rest) : line <+: text := by
  rcases Nat.lt_or_ge text.length line.length with longer | shorter
  · have reached : text ++ [char] <+: line := by
      refine prefix_of_prefix_length_le ⟨rest,by simp⟩ begins ?_
      rw [length_append,length_singleton]
      omega
    exact absurd (reached.subset (mem_append_right _ mem_cons_self)) other
  · exact prefix_of_prefix_length_le begins (prefix_append _ _) shorter

theorem free_spaced : Free text (space::rest) ↔ ¬ blankLine <:+: text := by
  induction text with
  | nil => exact iff_of_true trivial (by decide)
  | cons char text ih =>
    have here : blankLine <+: char::(text ++ space::rest) ↔ blankLine <+: char::text := by
      constructor
      · exact fun begins => prefix_of_append_cons (by decide) begins
      · exact fun begins => begins.trans (prefix_append (char::text) _)
    rw [Free,here,ih,infix_cons_iff,not_or]

def Word.body {ends : UInt8} (word : Word ends) : Bytes := List.replicate word.spaces space ++ word.text

def Line.body (line : Line) : Bytes :=
  crlf ++ (line.name ++ match line.value with
    | none => []
    | some value => colon::value.body)

def linesBody (lines : List Line) : Bytes := (lines.map Line.body).flatten

theorem replicate_plain {count : Nat} : ∀ char ∈ replicate count space, char ≠ carriageReturn := by
  intro char mem
  cases eq_of_mem_replicate mem
  decide

theorem Word.free_bytes (word : Word space) : Free word.bytes rest ↔ ¬ blankLine <:+: word.text := by
  have last : Free [space] rest := free_plain (forall_mem_singleton.mpr (by decide)) rest
  rw [Word.bytes,free_append,free_append,singleton_append,free_spaced]
  exact ⟨fun free => free.2.1,fun free => ⟨free_plain replicate_plain _,free,last⟩⟩

theorem Word.free_body (word : Word carriageReturn) (rest : Bytes) :
    Free word.body (crlf++rest) ↔ word.text ≠ crlf := by
  obtain ⟨spaces,first,tail,begins,inside⟩ := word
  have plain : ∀ char ∈ tail, char ≠ carriageReturn := fun char mem => (inside char mem).2
  have here : blankLine <+: first::(tail ++ (crlf++rest)) ↔ first::tail = crlf := by
    rw [blankLine_cons]
    match tail with
    | [] => simp [crlf,lineFeed,carriageReturn]
    | [second] => simp [crlf,eq_comm]
    | second::third::tail =>
      have third := (plain third (by simp)).symm
      simp [crlf,third]
  rw [Word.body,free_append,Word.text,Free,here]
  exact ⟨fun free => free.2.1,fun free => ⟨free_plain replicate_plain _,free,free_plain plain _⟩⟩

theorem Line.free_body (line : Line) (rest : Bytes) :
    Free line.body (crlf++rest) ↔ ∀ value ∈ line.value, value.text ≠ crlf := by
  have named : ∀ char ∈ line.name, char ≠ carriageReturn :=
    forall_mem_cons.mpr ⟨line.begins.2,fun char mem => (line.inside char mem).2.1⟩
  have ended : ∀ more, Free crlf (line.name ++ more) := by
    intro more
    refine ⟨fun blank => ?_,free_plain (forall_mem_singleton.mpr (by decide)) _⟩
    have behind := (cons_prefix_cons.mp (blankLine_cons.mp blank).2).2
    exact line.begins.2 (cons_prefix_cons.mp behind).1.symm
  unfold Line.body
  cases line.value with
  | none =>
    rw [free_append,append_nil]
    exact iff_of_true ⟨ended _,free_plain named _⟩ (by simp)
  | some value =>
    have coloned : ∀ more, Free [colon] more := free_plain (forall_mem_singleton.mpr (by decide))
    dsimp only
    rw [free_append,free_append,← singleton_append,free_append,value.free_body]
    simp [ended,free_plain named,coloned]

variable {lines : List Line} {rest : Bytes}

theorem linesBody_append : ∃ more, linesBody lines ++ (crlf++rest) = crlf ++ more := by
  cases lines with
  | nil => exact ⟨rest,rfl⟩
  | cons line lines =>
    exact ⟨_,rfl⟩

theorem linesBody_free :
    Free (linesBody lines) (crlf++rest) ↔ ∀ line ∈ lines, ∀ value ∈ line.value, value.text ≠ crlf := by
  induction lines with
  | nil => exact iff_of_true trivial (by simp)
  | cons line lines ih =>
    obtain ⟨more,split⟩ := linesBody_append
    have shape : linesBody (line::lines) = line.body ++ linesBody lines := rfl
    rw [shape,free_append,split,line.free_body,ih,forall_mem_cons]

theorem linesBytes_body :
    carriageReturn :: (linesBytes lines ++ rest) = linesBody lines ++ carriageReturn::rest := by
  induction lines with
  | nil => rfl
  | cons line lines ih =>
    have bytes : linesBytes (line::lines) ++ rest = line.bytes ++ (linesBytes lines ++ rest) :=
      append_assoc _ _ _
    have body : linesBody (line::lines) ++ carriageReturn::rest =
        line.body ++ (linesBody lines ++ carriageReturn::rest) :=
      append_assoc _ _ _
    rw [bytes,body,← ih]
    unfold Line.bytes Line.body
    cases line.value with
    | none => simp [crlf]
    | some value => simp [crlf,Word.bytes,Word.body]

def Layout.body (layout : Layout) : Bytes :=
  layout.first.bytes ++ (layout.second.bytes ++ (layout.third.body ++ linesBody layout.lines))

variable (layout : Layout)

theorem Layout.bytes_body : layout.bytes = layout.body ++ blankLine := by
  have third : ∀ rest, layout.third.bytes ++ rest = layout.third.body ++ carriageReturn::rest := by
    simp [Word.bytes,Word.body]
  unfold Layout.bytes Layout.body
  rw [third,linesBytes_body]
  simp [blankLine,crlf]

theorem Layout.body_free : Free layout.body (blankLine++rest) ↔ layout.Clear := by
  obtain ⟨more,split⟩ := linesBody_append
  have blank : blankLine ++ rest = crlf ++ (crlf++rest) := append_assoc _ _ _
  unfold Layout.body Layout.Clear
  rw [free_append,free_append,free_append,layout.first.free_bytes,layout.second.free_bytes,blank,
    linesBody_free,split,
    layout.third.free_body]

/-- The head of an input that is read to its end ends behind the first blank line exactly when the
input begins with a layout in which no text has a blank line, or takes one with it. -/
theorem head_boundary_iff (isRequest : Bool) (address : Nat) (input : Bytes)
    (finished : ((Parser.reset isRequest).parse always address input).2 = .handleFinish) :
    some ((Parser.reset isRequest).parse always address input).1.headLength = bodyStart input ↔
      ∃ (layout : Layout) (rest : Bytes), input = layout.bytes ++ rest ∧ layout.Clear := by
  have place : ∀ (layout : Layout) (rest : Bytes), input = layout.bytes ++ rest →
      (some ((Parser.reset isRequest).parse always address input).1.headLength = bodyStart input ↔
        layout.Clear) := by
    rintro layout rest rfl
    obtain ⟨later,parsed,length,-⟩ := layout.parse_bytes isRequest address rest
    rw [parsed,length,layout.bytes_body,append_assoc,length_append,eq_comm,
      bodyStart_iff (prefix_append _ _),layout.body_free]
  obtain ⟨layout,rest,split⟩ := Layout.of_finish finished
  constructor
  · exact fun same => ⟨layout,rest,split,(place layout rest split).mp same⟩
  · rintro ⟨other,more,split',clear⟩
    exact (place other more split').mpr clear

def smallResponse : Bytes := [86,32,50,32,79,13,10,65,58,32,98,13,10,13,10,66,13,10,13,10]

theorem head_boundary_response : ((Parser.reset false).parse always 0 smallResponse).2 = .handleFinish ∧
    ∃ (layout : Layout) (rest : Bytes), smallResponse = layout.bytes ++ rest ∧ layout.Clear :=
  ⟨by decide,(head_boundary_iff false 0 smallResponse (by decide)).mp (by decide)⟩

/-- `V 2 `, with no reason, and a blank line in front of a body. -/
def noReason : Bytes := [86,32,50,32,13,10,13,10,98,13,10,13,10]

theorem no_reason_boundary : ((Parser.reset false).parse always 0 noReason).2 = .handleFinish ∧
    ((Parser.reset false).parse always 0 noReason).1.headLength = 13 ∧ bodyStart noReason = some 8 := by
  decide

end Mooon.Http

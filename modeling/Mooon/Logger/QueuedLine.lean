import Mooon.Logger.Lines

/-! The lines that `CLogger::do_log` queues. The first allocation succeeds. -/
namespace Mooon.Lines.Queued
open List Option Int

/-- The texts of a line, all without a zero character: the date fits its buffer, and the thread has
eight digits. -/
structure Line where
  datetime : Text
  thread : Text
  level : Level
  moduleName : Option Text
  filename : Text
  lineno : Text
  message : Text
  narrow : datetime.length ≤ 30 ∧ thread.length = 8
  plain : nul ∉ datetime ++ thread ++ moduleName.getD [] ++ filename ++ lineno ++ message

namespace Line

def headLength (line : Line) : Nat :=
  line.datetime.length + line.thread.length + (getLogLevelName line.level).length +
    (line.moduleName.elim 0 fun name => name.length + 2) + line.filename.length + line.lineno.length + 11

def front (line : Line) : Text :=
  '['::line.datetime ++ "][0x".toList ++ line.thread ++ "][".toList ++ getLogLevelName line.level ++ [']']

def header (line : Line) : Text :=
  line.front ++ (line.moduleName.elim [] fun name => '['::name ++ [']']) ++
    '['::line.filename ++ ':'::line.lineno ++ [']']

end Line

def lineSize (logLineSize : UInt16) : Nat := if logLineSize < 256 then 256 else logLineSize.toNat

/-- The record before its ends: an overflow of an `int` has no result. -/
def assemble (size : Nat) (line : Line) (reallocated : Bool) (memory memory' : Nat → Char) :
    Option (CharBuffer Char × Int) := do
  let (content,headLength) ← fixVsnprintf nul 0 size line.header ⟨size+5,memory⟩
  let (content,lineLength) ← content.vsnprintf nul headLength (size - headLength.toNat) line.message
  if lineLength < size - headLength then return (content,(headLength + lineLength) % 65536)
  let newLineLength := lineLength + headLength
  if 2147483647 < newLineLength then none
  let newLineLength := (min newLineLength 32768).toNat
  if reallocated then
    let (content,headLength) ← fixVsnprintf nul 0 newLineLength line.front ⟨newLineLength+5,memory'⟩
    let (content,lineLength) ← fixVsnprintf nul headLength (newLineLength - headLength.toNat)
      line.message content
    return (content,(headLength + lineLength) % 65536)
  else return (content,(headLength + (lineLength - 1)) % 65536)

def doLog (logLineSize : UInt16) (line : Line) (reallocated : Bool) (ends : Ends)
    (memory memory' : Nat → Char) : Option (CharBuffer Char × Int) := do
  let record ← assemble (lineSize logLineSize) line reallocated memory memory'
  let record ← append ['.','\n'] [nul] (· % 65536) '.' ends.dot record
  append ['\n'] [nul] (· % 65536) '\n' ends.newline record

/-- The record is not empty, has no zero character, and is the header and the message, cut only
where they exceed the limit, with the ends that are missing. -/
def Queues (logLineSize : UInt16) (line : Line) (reallocated : Bool) (ends : Ends)
    (memory memory' : Nat → Char) : Prop :=
  ∃ content length kept, doLog logLineSize line reallocated ends memory memory' =
    some (content,length) ∧ length ≠ 0 ∧
    nul ∉ content.text length.toNat ∧
      (kept < line.message.length → 32768 < line.headLength + line.message.length) ∧
    content.text length.toNat = appended ['\n'] '\n' ends.newline
      (appended ['.','\n'] '.' ends.dot (line.header ++ line.message.take kept))

/-- The header leaves room for its zero character, which is not part of the record as the length of
the message is that of no `int`, or is lost with the enlarged buffer and modulo 65536. -/
def Hidden (size : Nat) (line : Line) (reallocated : Bool) : Prop :=
  line.headLength < size ∧ (2147483647 < line.message.length ∨ reallocated = false ∧
    size ≤ line.headLength + 1 + line.message.length ∧ line.message.length % 65536 = 0 ∧
    line.headLength + 1 + line.message.length ≤ 2147483647)

section
variable {size : Nat} {line : Line} {reallocated : Bool} {memory memory' : Nat → Char}

theorem header_length : line.header.length = line.headLength := by
  simp only [Line.header,Line.front,Line.headLength]
  cases line.moduleName <;> simp <;> omega

theorem header_last (line : Line) : line.header.getLast? = some ']' := getLast?_concat

theorem front_length : line.front.length ≤ 60 := by
  have level : (getLogLevelName line.level).length ≤ 6 := by cases line.level <;> decide
  have narrow := line.narrow
  simp only [Line.front]
  simp
  omega

/-- A record that cannot be right: it ends within the header, or has a zero character. -/
def Spoiled (line : Line) (record : CharBuffer Char × Int) : Prop :=
  record.2 < line.headLength ∨ nul ∈ record.1.text record.2.toNat

theorem grown_spoiled {newLength : Nat} (large : 256 ≤ newLength) (small : newLength ≤ 32768)
    {record : CharBuffer Char × Int} (done : (do
      let (content,headLength) ← fixVsnprintf nul 0 newLength line.front ⟨newLength+5,memory'⟩
      let (content,lineLength) ← fixVsnprintf nul headLength (newLength - headLength.toNat)
        line.message content
      return (content,(headLength + lineLength) % 65536)) = some record) :
    0 ≤ record.2 ∧ record.2 < 65536 ∧ Spoiled line record := by
  have short : line.front.length ≤ 60 := front_length
  have inside : 0 + newLength ≤ (⟨newLength+5,memory'⟩ : CharBuffer Char).capacity := by simp
  obtain ⟨headed,first,header⟩ := fixVsnprintf_printed nul 0 0 rfl line.front inside (by omega)
  have head : fixed newLength line.front = line.front.length + 1 := by
    rw [fixed,if_pos (by omega)]
    omega
  have cap := header.capacity
  have behind : line.front.length + 1 + (newLength - (line.front.length + 1)) ≤ headed.capacity := by omega
  obtain ⟨content,second,msg⟩ := fixVsnprintf_printed nul _ _ rfl line.message behind (by omega)
  have zero : nul ∈ content.text (line.front.length + 1) := by
    rw [msg.front,CharBuffer.text_succ]
    have ended := header.ended (by omega)
    rw [Nat.zero_add,Nat.min_eq_right (by omega)] at ended
    simp [ended]
  have bound : fixed (newLength - (line.front.length + 1)) line.message ≤
      newLength - (line.front.length + 1) := by
    unfold fixed
    split_ifs <;> omega
  rw [first,head] at done
  simp only [bind_eq_bind,bind_some,toNat_natCast,second] at done
  cases done
  refine ⟨by omega,by omega,.inr (CharBuffer.mem_text_of_le ?_ zero)⟩
  omega

theorem assemble_cases (large : 256 ≤ size) (small : size < 65536) :
    (∀ record, assemble size line reallocated memory memory' = some record →
      0 ≤ record.2 ∧ record.2 < 65536 ∧ (Hidden size line reallocated ∨ Spoiled line record)) ∧
    (Hidden size line reallocated → ∃ record, assemble size line reallocated memory memory' = some record ∧
      Holds (size+5) line.header record) := by
  have inside : 0 + size ≤ (⟨size+5,memory⟩ : CharBuffer Char).capacity := by simp
  obtain ⟨headed,first,header⟩ := fixVsnprintf_printed nul 0 0 rfl line.header inside (by omega)
  have head : fixed size line.header = if line.headLength ≤ 2147483647 then
      min (line.headLength+1) size else 0 := by
    rw [fixed,header_length]
  generalize fixed size line.header = headLength at first head
  have cap := header.capacity
  have behind : headLength + (size - headLength) ≤ headed.capacity := by
    split_ifs at head <;> omega
  obtain ⟨content,second,msg⟩ := CharBuffer.vsnprintf_printed nul line.message behind
  have spoiled : ∀ length : Int, 0 ≤ length → length < line.headLength ∨
      headLength ≤ length ∧ line.headLength ≤ 2147483647 → Spoiled line (content,length) := by
    intro length pos cause
    rcases cause with less | ⟨longer,short⟩
    · exact .inl less
    · refine .inr (CharBuffer.mem_text_of_le (show headLength ≤ _ by omega) ?_)
      rw [if_pos short] at head
      have ended := header.ended (by omega)
      rw [header_length] at ended
      rw [msg.front,← ended]
      exact CharBuffer.mem_text (by omega)
  have whole : line.headLength < size → content.text line.headLength = line.header := by
    intro short
    rw [if_pos (by omega)] at head
    have printed := header.text
    rw [Nat.zero_add,header_length,Nat.min_eq_right (by omega),
      take_of_length_le (by rw [header_length]; omega)] at printed
    rw [← CharBuffer.text_take (show line.headLength ≤ headLength by omega),msg.front,
      CharBuffer.text_take (by omega),printed]
    simp [CharBuffer.text]
  unfold assemble
  rw [first,bind_eq_bind,bind_some]
  dsimp only
  rw [toNat_natCast,second,bind_some]
  generalize answer : (if line.message.length ≤
    2147483647 then (line.message.length : Int) else -1) = lineLength
  constructor
  · intro record done
    by_cases enough : lineLength < size - headLength
    · rw [if_pos enough] at done
      cases done
      refine ⟨by omega,by omega,?_⟩
      by_cases hidden : Hidden size line reallocated
      · exact .inl hidden
      · refine .inr (spoiled _ (by omega) ?_)
        unfold Hidden at hidden
        split_ifs at head answer <;> omega
    · rw [if_neg enough] at done
      by_cases overflow : 2147483647 < lineLength + headLength
      · rw [if_pos overflow] at done
        cases done
      rw [if_neg overflow] at done
      cases reallocated with
      | true =>
        obtain ⟨pos,bound,bad⟩ := grown_spoiled (by split_ifs at head answer <;> omega) (by omega) done
        exact ⟨pos,bound,.inr bad⟩
      | false =>
        cases done
        refine ⟨by omega,by omega,?_⟩
        by_cases hidden : Hidden size line false
        · exact .inl hidden
        · refine .inr (spoiled _ (by omega) ?_)
          simp only [Hidden,true_and] at hidden
          split_ifs at head answer <;> omega
  · rintro ⟨short,cause⟩
    have holds : Holds (size+5) line.header (content,(line.headLength : Int)) := by
      rw [Holds,header_length]
      exact ⟨msg.capacity.trans cap,rfl,whole short⟩
    rw [if_pos (by omega)] at head
    rcases cause with long | ⟨failed,longer,divides,bound⟩
    · rw [if_neg (by omega)] at answer
      rw [if_pos (by omega)]
      have length : (headLength + lineLength) % 65536 = line.headLength := by omega
      exact ⟨_,rfl,length.symm ▸ holds⟩
    · rw [if_pos (by omega)] at answer
      have length : ((headLength : Int) + (lineLength - 1)) % 65536 = line.headLength := by omega
      rw [if_neg (by omega),if_neg (by omega),failed]
      exact ⟨_,rfl,length.symm ▸ holds⟩

end

theorem appended_eq (stops : Text) (char : Char) (enabled : Bool) (text : Text) :
    ∃ added, appended stops char enabled text = text ++ added ∧ ∀ other ∈ added, other = char := by
  unfold appended
  split_ifs
  · exact ⟨[char],rfl,by simp⟩
  · exact ⟨[],by simp,by simp⟩

section
variable {cap : Nat} {text : Text} {ends : Ends} {record middle final : CharBuffer Char × Int}

theorem append_lt {stops terminator : Text} {char : Char} {enabled : Bool} (short : record.2 < 65536)
    (done : append stops terminator (· % 65536) char enabled record = some final) : final.2 < 65536 := by
  unfold append at done
  split at done
  · rw [bind_eq_bind,bind_eq_some_iff] at done
    obtain ⟨last,-,done⟩ := done
    split at done
    · cases done
      exact short
    · obtain ⟨buf,-,same⟩ := bind_eq_some_iff.mp done
      cases same
      exact emod_lt_of_pos _ (by decide)
  · cases done
    exact short

theorem ends_hold (holds : Holds cap text record) (short : text.length < 65536)
    (first : append ['.','\n'] [nul] (· % 65536) '.' ends.dot record = some middle)
    (second : append ['\n'] [nul] (· % 65536) '\n' ends.newline middle = some final) (nonzero : final.2 ≠ 0) :
    Holds cap (appended ['\n'] '\n' ends.newline (appended ['.','\n'] '.' ends.dot text)) final ∧
      final.2 < 65536 := by
  have size := holds.2.1
  have some : middle.2 ≠ 0 := by
    intro zero
    have before : middle.1.read (middle.2 - 1) = none := if_neg (by omega)
    cases newline : ends.newline with
    | true => simp [append,newline,before] at second
    | false =>
      rw [newline] at second
      cases second
      exact nonzero zero
  have dotted := append_holds holds first fun same => by omega
  have middle_lt := append_lt (by omega) first
  have size := dotted.2.1
  exact ⟨append_holds dotted second fun same => by omega,append_lt middle_lt second⟩

/-- A record that ends within the header can only be made longer with dots and newlines, and the
header ends in a bracket. -/
theorem Spoiled.not_queued {line : Line} (spoiled : Spoiled line record) (holds : Holds cap text record)
    {rest : Text} (clean : nul ∉ appended ['\n'] '\n' ends.newline (appended ['.','\n'] '.' ends.dot text)) :
    appended ['\n'] '\n' ends.newline (appended ['.','\n'] '.' ends.dot text) ≠ line.header ++ rest := by
  obtain ⟨-,size,same⟩ := holds
  obtain ⟨dots,dotted,dot⟩ := appended_eq ['.','\n'] '.' ends.dot text
  obtain ⟨newlines,ended,newline⟩ := appended_eq ['\n'] '\n' ends.newline (text ++ dots)
  rw [dotted,ended,append_assoc] at clean ⊢
  rcases spoiled with short | zero
  · intro equal
    rcases append_eq_append_iff.mp equal with ⟨piece,headed,added⟩ | ⟨more,headed,-⟩
    · have longer : piece ≠ [] := by
        rintro rfl
        rw [← header_length,headed,append_nil] at short
        omega
      have last : piece.getLast? = some ']' := by
        rw [← header_last line,headed,getLast?_append_of_ne_nil _ longer]
      have inside := added ▸ mem_append_left _ (mem_of_getLast? last)
      rcases mem_append.mp inside with mem | mem
      · exact absurd (dot _ mem) (by decide)
      · exact absurd (newline _ mem) (by decide)
    · have longer := congrArg length headed
      rw [length_append,header_length] at longer
      omega
  · rw [size,toNat_natCast,same] at zero
    exact absurd (mem_append_left _ zero) clean

end

section
variable (line : Line) (dot newline : Bool)

theorem dotted_header : appended ['.','\n'] '.' dot line.header = line.header ++ replicate dot.toNat '.' := by
  cases dot <;> simp [appended,header_last]

theorem ended_header : appended ['\n'] '\n' newline (line.header ++ replicate dot.toNat '.') =
    line.header ++ replicate dot.toNat '.' ++ replicate newline.toNat '\n' := by
  cases dot <;> cases newline <;> simp [appended,header_last]

theorem header_plain : nul ∉ line.header := by
  have level : nul ∉ getLogLevelName line.level := by cases line.level <;> decide
  have plain := line.plain
  simp only [mem_append,not_or] at plain
  obtain ⟨⟨⟨⟨⟨datetime,thread⟩,name⟩,file⟩,lineno⟩,-⟩ := plain
  unfold Line.header Line.front
  cases module : line.moduleName <;> rw [module] at name <;>
    simp_all [nul]

end

theorem queued_line_iff (logLineSize : UInt16) (line : Line) (reallocated : Bool) (ends : Ends)
    (memory memory' : Nat → Char) : Queues logLineSize line reallocated ends memory memory' ↔
      Hidden (lineSize logLineSize) line reallocated ∧
        line.headLength + ends.dot.toNat + ends.newline.toNat < 65536 := by
  have bounds : 256 ≤ lineSize logLineSize ∧ lineSize logLineSize < 65536 := by
    unfold lineSize
    split_ifs with small
    · decide
    · exact ⟨Nat.le_of_not_lt fun less => small (UInt16.lt_iff_toNat_lt.mpr less),logLineSize.toNat_lt⟩
  obtain ⟨outcome,hidden⟩ :=
    assemble_cases bounds.1 bounds.2
  constructor
  · rintro ⟨content,length,kept,done,nonzero,clean,-,written⟩
    obtain ⟨record,assembled,done⟩ := bind_eq_some_iff.mp done
    obtain ⟨middle,first,second⟩ := bind_eq_some_iff.mp done
    obtain ⟨positive,short,cause⟩ := outcome record assembled
    rcases cause with hide | spoiled
    · obtain ⟨_,same,holds⟩ := hidden hide
      obtain rfl := some.inj (same.symm.trans assembled)
      have size := holds.2.1
      obtain ⟨final,bound⟩ := ends_hold holds (by omega) first second nonzero
      have length := final.2.1
      rw [dotted_header,ended_header] at length
      simp only [length_append,header_length,length_replicate] at length
      exact ⟨hide,by omega⟩
    · have holds : Holds record.1.capacity (record.1.text record.2.toNat) record := by
        rw [Holds,CharBuffer.text_length]
        exact ⟨rfl,(toNat_of_nonneg positive).symm,rfl⟩
      obtain ⟨⟨-,size,same⟩,-⟩ := ends_hold holds (by rw [CharBuffer.text_length]; omega) first second nonzero
      dsimp only at size same
      rw [size,toNat_natCast,same] at clean written
      obtain ⟨dots,dotted,-⟩ := appended_eq ['.','\n'] '.' ends.dot (line.header ++ line.message.take kept)
      obtain ⟨newlines,ended,-⟩ :=
        appended_eq ['\n'] '\n' ends.newline (line.header ++ line.message.take kept ++ dots)
      rw [dotted,ended,append_assoc,append_assoc] at written
      exact absurd written (spoiled.not_queued holds clean)
  · rintro ⟨hide,short⟩
    obtain ⟨record,assembled,holds⟩ := hidden hide
    have room := hide.1
    have start : line.header ≠ [] := by
      intro none
      simpa [none] using header_last line
    have size := holds.2.1
    rw [header_length] at size
    have dot := Bool.toNat_le ends.dot
    obtain ⟨middle,first⟩ : ∃ after, append ['.','\n'] [nul] (· % 65536) '.' ends.dot record = some after :=
      append_some holds (fun _ => start) (by rw [header_length]; simp; omega)
    have dotted := append_holds holds first fun same => by omega
    rw [dotted_header] at dotted
    have middle_size := dotted.2.1
    rw [length_append,header_length,length_replicate] at middle_size
    obtain ⟨final,second⟩ : ∃ after, append ['\n'] [nul] (· % 65536) '\n' ends.newline middle = some after :=
      append_some dotted (fun _ none => start (append_eq_nil_iff.mp none).1) (by simp [header_length]; omega)
    have ended := append_holds dotted second fun same => by
      cases newline : ends.newline with
      | true =>
        rw [newline] at short
        simp at short
        omega
      | false =>
        rw [newline] at second
        cases second
        omega
    rw [ended_header] at ended
    obtain ⟨-,length,text⟩ := ended
    refine ⟨final.1,final.2,0,?_,?_,?_,?_,?_⟩
    · rw [doLog,assembled,bind_eq_bind,bind_some,first]
      exact second
    · have positive := length_pos_iff.mpr start
      rw [length,length_append,length_append]
      omega
    · have plain := header_plain line
      rw [length,toNat_natCast]
      simp_all [nul]
    · obtain ⟨-,long | ⟨-,-,divides,-⟩⟩ := hide
      · omega
      · omega
    · rw [length,toNat_natCast,text,take_zero,append_nil,dotted_header,ended_header]

def ordinary : Line where
  datetime := "2024-01-02 03:04:05".toList
  thread := "00000001".toList
  level := .info
  moduleName := none
  filename := "main.cpp".toList
  lineno := "27".toList
  message := "ok".toList
  narrow := by decide
  plain := by decide +kernel

theorem ordinary_not_queued : ¬ Queues 8192 ordinary true ⟨true,true⟩ (fun _ => 'x') (fun _ => 'x') := by
  rintro ⟨content,length,kept,done,-,clean,-⟩
  have zero : (doLog 8192 ordinary true ⟨true,true⟩ (fun _ => 'x') (fun _ => 'x')).all
      (fun record => record.1.text record.2.toNat |>.contains nul) = true := by decide +kernel
  rw [done] at zero
  exact clean (contains_iff_mem.mp zero)

end Mooon.Lines.Queued

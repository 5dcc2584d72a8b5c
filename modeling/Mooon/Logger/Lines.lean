import Mooon.CharBuffer
import Mooon.Logger.SimpleLogger

/-! How the loggers put a line together in a buffer. The texts of a header and the formatted message
are given; what is in a buffer before it is written is not known. -/
namespace Mooon.Lines
open List Option

section
variable {Char : Type}

def fixVsnprintf (nul : Char) (start : Int) (size : Nat) (text : List Char) (buffer : CharBuffer Char) :
    Option (CharBuffer Char × Int) :=
  (buffer.vsnprintf nul start size text).map fun (buffer,expected) =>
    (buffer,if expected < (Int32.ofNat size).toInt then expected + 1 else (Int32.ofNat size).toInt)

/-- What it returns counts the terminator, but is zero for a text that is too long. -/
def fixed (size : Nat) (text : List Char) : Nat :=
  if text.length ≤ 2147483647 then min (text.length+1) size else 0

theorem fixVsnprintf_printed (nul : Char) (addr : Int) (start : Nat) (begins : addr = start) {size : Nat}
    (text : List Char) {buf : CharBuffer Char} (inside : start + size ≤ buf.capacity)
    (small : size < 2147483648) :
    ∃ after, fixVsnprintf nul addr size text buf = some (after,(fixed size text : Int)) ∧
      buf.Printed nul start size text after := by
  obtain ⟨after,done,printed⟩ := CharBuffer.vsnprintf_printed nul text inside
  subst begins
  refine ⟨after,?_,printed⟩
  rw [fixVsnprintf,done,map_some,Int32.toInt_ofNat_of_lt small,fixed]
  split_ifs <;> simp only [Option.some.injEq,Prod.mk.injEq,true_and] <;> omega

end

namespace Simple
open SimpleLogger (Bytes Config newline)

structure Fields where
  datetime : Bytes
  level : Bytes
  pid : Bytes
  tag1 : Bytes
  tag2 : Bytes
  file : Option (Bytes × Bytes)

def Fields.length (fields : Fields) : Nat :=
  fields.datetime.length + fields.level.length + fields.pid.length + 6 +
    (if fields.tag1.isEmpty then 0 else fields.tag1.length + 2) +
    (if fields.tag2.isEmpty then 0 else fields.tag2.length + 2) +
    fields.file.elim 0 fun (file,line) => file.length + line.length + 3

structure Header where
  fields : Option Fields
  fits : fields.elim 0 Fields.length < 9223372036854775808

def Header.length (header : Header) : Nat := header.fields.elim 0 Fields.length

def bracketed (text : Bytes) : Bytes := 91::text ++ [93]

def Fields.text (fields : Fields) : Bytes :=
  bracketed fields.datetime ++ bracketed fields.level ++ bracketed fields.pid ++
    (if fields.tag1.isEmpty then [] else bracketed fields.tag1) ++
    (if fields.tag2.isEmpty then [] else bracketed fields.tag2) ++
    fields.file.elim [] fun (file,line) => bracketed (file ++ 58::line)

def Header.text (header : Header) : Bytes := header.fields.elim [] Fields.text

def contentSize (config : Config) (header : Bytes) : Nat :=
  ((config.recordLimit - header.length + 1 : Int) % 18446744073709551616).toNat

def print (config : Config) (header message : Bytes) (memory : Nat → UInt8) : Option Bytes := do
  let size := contentSize config header
  let (content,iovLen) ← fixVsnprintf 0 0 size message ⟨size,memory⟩
  let content ← content.write ((iovLen - 1) % 18446744073709551616) newline
  return header ++ content.text iovLen.toNat

/-- The buffer is not longer than a record, the accesses are inside of it, and the line is the
header, the begin of the message and a newline. -/
def Assembled (config : Config) (header : Header) (message : Bytes) : Prop :=
  contentSize config header.text ≤ config.recordLimit + 1 ∧ ∀ memory, ∃ kept,
    print config header.text message memory = some (header.text ++ message.take kept ++ [newline])

theorem Header.length_text (header : Header) : header.text.length = header.length := by
  unfold Header.text Header.length
  cases header.fields with
  | none => rfl
  | some fields =>
    have piece : ∀ text : Bytes, (bracketed text).length = text.length + 2 := by simp [bracketed]
    simp only [elim_some,Fields.text,Fields.length,length_append,apply_ite List.length]
    cases fields.file <;> simp [piece] <;> omega

section
variable {cfg : Config} {header msg : Bytes}

theorem recordLimit_lt (cfg : Config) : cfg.recordLimit < 65536 := by
  unfold Config.recordLimit
  split_ifs
  · decide
  · exact cfg.recordSize.toNat_lt

variable {memory : Nat → UInt8}

theorem print_eq (small : contentSize cfg header < 2147483648) :
    print cfg header msg memory =
      if fixed (contentSize cfg header) msg = 0 then none
      else some (header ++ msg.take (contentSize cfg header - 1) ++ [newline]) := by
  unfold print
  generalize contentSize cfg header = size at small ⊢
  have inside : 0 + size ≤ (⟨size,memory⟩ : CharBuffer UInt8).capacity := Nat.le_of_eq (Nat.zero_add size)
  obtain ⟨content,done,cap,text,-⟩ := fixVsnprintf_printed 0 0 0 rfl msg inside small
  change content.capacity = size at cap
  dsimp only
  rw [done,bind_eq_bind,bind_some]
  cases length : fixed size msg with
  | zero =>
    have outside : content.write (((0 : Nat) - 1 : Int) % 18446744073709551616) newline = none :=
      if_neg (by rw [cap]; omega)
    rw [outside]
    rfl
  | succ last =>
    have fits : last = min (size - 1) msg.length ∧ last < size := by
      unfold fixed at length
      split_ifs at length
      omega
    have index : (((last+1 : Nat) : Int) - 1) % 18446744073709551616 = (last : Int) := by omega
    rw [Nat.zero_add,← fits.1] at text
    rw [index,CharBuffer.write_eq (cap ▸ fits.2),bind_eq_bind,bind_some,Int.toNat_natCast,
      CharBuffer.text_update,text,if_neg (Nat.succ_ne_zero last)]
    simp [CharBuffer.text]

theorem print_record {header : Header} (short : header.length ≤ cfg.recordLimit)
    (long : msg.length ≤ 2147483647) :
    print cfg header.text msg memory = some (SimpleLogger.record cfg header.text msg) := by
  have limit := recordLimit_lt cfg
  have size : contentSize cfg header.text = cfg.recordLimit - header.length + 1 := by
    rw [contentSize,header.length_text]
    omega
  have pos : fixed (contentSize cfg header.text) msg ≠ 0 := by
    rw [fixed,if_pos long]
    omega
  rw [print_eq (by omega),if_neg pos,size,Nat.add_sub_cancel,SimpleLogger.record,header.length_text]

end

theorem simple_line_iff (config : Config) (header : Header) (message : Bytes) :
    Assembled config header message ↔ header.length ≤ config.recordLimit ∧ message.length ≤ 2147483647 := by
  have limit := recordLimit_lt config
  have fits : header.length < 9223372036854775808 := header.fits
  have size : contentSize config header.text =
      ((config.recordLimit - header.length + 1 : Int) % 18446744073709551616).toNat := by
    rw [contentSize,header.length_text]
  constructor
  · rintro ⟨allocated,written⟩
    obtain ⟨kept,done⟩ := written fun _ => 0
    rw [print_eq (by omega)] at done
    split_ifs at done with zero
    rw [fixed] at zero
    split_ifs at zero <;> omega
  · rintro ⟨short,long⟩
    exact ⟨by omega,fun memory => ⟨_,print_record short long⟩⟩

theorem simple_line_long_tag : ¬Assembled ⟨0,1,0,by decide⟩ ⟨some ⟨replicate 19 48,replicate 4 73,[49],
    replicate 1010 116,[],none⟩,by decide +kernel⟩ [111,107] := by
  rintro ⟨allocated,-⟩
  revert allocated
  decide +kernel

end Simple

abbrev Text := List Char

def nul : Char := '\x00'

inductive Level where
  | detail | debug | info | warn | error | fatal | state | trace | raw | bin
deriving DecidableEq

def getLogLevelName : Level → Text
  | .detail => "DETAIL".toList
  | .debug => "DEBUG".toList
  | .info => "INFO".toList
  | .warn => "WARN".toList
  | .error => "ERROR".toList
  | .fatal => "FATAL".toList
  | .state => "STATE".toList
  | .trace => "TRACE".toList
  | .raw => "RAW".toList
  | .bin => "BIN".toList

structure Ends where
  dot : Bool
  newline : Bool

def append (stops terminator : Text) (wrap : Int → Int) (char : Char) (enabled : Bool)
    (line : CharBuffer Char × Int) : Option (CharBuffer Char × Int) :=
  if enabled then do
    let last ← line.1.read (line.2 - 1)
    if last ∈ stops then return line
    let buffer ← line.1.copy line.2 (char::terminator)
    return (buffer,wrap (line.2 + 1))
  else some line

def appended (stops : Text) (char : Char) (enabled : Bool) (text : Text) : Text :=
  if enabled && text.getLast?.all (· ∉ stops) then text ++ [char] else text

def Holds (capacity : Nat) (text : Text) (line : CharBuffer Char × Int) : Prop :=
  line.1.capacity = capacity ∧ line.2 = text.length ∧ line.1.text text.length = text

section
variable {cap : Nat} {text stops terminator : Text} {wrap : Int → Int} {char : Char} {enabled : Bool}
  {line after : CharBuffer Char × Int}

section
variable (holds : Holds cap text line)
include holds

theorem Holds.read {last : Char} (found : line.1.read (line.2 - 1) = some last) :
    text.getLast? = some last := by
  obtain ⟨-,size,same⟩ := holds
  unfold CharBuffer.read at found
  split_ifs at found with inside
  cases length : text.length with
  | zero => omega
  | succ before =>
    have index : (line.2 - 1).toNat = before := by omega
    rw [← same,length,CharBuffer.getLast_text,← index]
    exact found

theorem append_some (start : enabled → text ≠ [])
    (room : text.length + terminator.length < cap) :
    ∃ after, append stops terminator wrap char enabled line = some after := by
  obtain ⟨rfl,size,same⟩ := holds
  cases enabled with
  | false => exact ⟨line,rfl⟩
  | true =>
    have pos := length_pos_iff.mpr (start rfl)
    have read : ∃ last, line.1.read (line.2 - 1) = some last := ⟨_,if_pos (by omega)⟩
    have fits : 0 ≤ line.2 ∧ line.2 + (char::terminator).length ≤ line.1.capacity := by
      rw [length_cons]
      omega
    obtain ⟨last,read⟩ := read
    simp only [append,read,bind_eq_bind,bind_some,CharBuffer.copy]
    split_ifs <;> exact ⟨_,rfl⟩

theorem append_holds
    (done : append stops terminator wrap char enabled line = some after)
    (whole : after.2 = wrap (line.2 + 1) → after.2 = line.2 + 1) :
    Holds cap (appended stops char enabled text) after := by
  unfold append at done
  unfold appended
  cases enabled with
  | false =>
    cases done
    exact holds
  | true =>
    rw [if_pos rfl,bind_eq_bind,bind_eq_some_iff] at done
    obtain ⟨last,found,done⟩ := done
    simp only [holds.read found,all_some,Bool.true_and,decide_eq_true_eq]
    by_cases stop : last ∈ stops
    · rw [if_pos stop] at done
      cases done
      rw [if_neg (not_not.mpr stop)]
      exact holds
    · rw [if_neg stop,bind_eq_bind,bind_eq_some_iff] at done
      obtain ⟨buf,copy,final⟩ := done
      cases final
      obtain ⟨rfl,size,same⟩ := holds
      unfold CharBuffer.copy at copy
      split_ifs at copy
      cases copy
      have longer : (text ++ [char]).length = text.length + 1 := length_append
      have copied := congrArg (take (text.length + 1)) (line.1.text_copied text.length (char::terminator))
      rw [CharBuffer.text_take (by rw [length_cons]; omega),same,take_length_add_append] at copied
      have next := whole rfl
      rw [if_pos stop,Holds,longer,next,size]
      exact ⟨rfl,rfl,copied⟩

end

end

theorem printed_take (front : Text) {buf after : CharBuffer Char} {start size length : Nat} {msg : Text}
    (printed : buf.Printed nul start size msg after) (before : buf.text start = front.take start)
    (whole : start = front.length ∨ size ≤ 1) (inside : length ≤ start + min (size-1) msg.length) :
    after.text length = (front ++ msg).take length := by
  rw [← CharBuffer.text_take inside,printed.text,before]
  rcases whole with rfl | none
  · rw [take_length,take_append,take_append,take_take,Nat.min_eq_left (by omega)]
  · have sizes := congrArg List.length before
    rw [CharBuffer.text_length,length_take] at sizes
    rw [Nat.sub_eq_zero_of_le none,take_zero,append_nil,take_take,Nat.min_eq_left (by omega),
      take_append_of_le_length (by omega)]

namespace Safe

structure Fields where
  datetime : Text
  thread : Text
  pid : Text
  module : Option Text
  file : Option (Text × Text)
  rawTime : Text
  timed : rawTime.length = 21

def Fields.length (fields : Fields) (level : Level) : Nat :=
  fields.datetime.length + fields.thread.length + fields.pid.length + (getLogLevelName level).length + 7 +
    (fields.module.elim 0 fun name => name.length + 2) +
    fields.file.elim 0 fun (file,line) => file.length + line.length + 3

def Fields.header (fields : Fields) (level : Level) : Text :=
  '['::fields.datetime ++ "][".toList ++ fields.thread ++ '/'::fields.pid ++ "][".toList ++
    getLogLevelName level ++ [']'] ++
    (fields.module.elim [] fun name => '['::name ++ [']']) ++
    fields.file.elim [] fun (file,line) => '['::file ++ ':'::line ++ [']']

section
variable (logLineSize : UInt16) (rawRecordTime : Bool) (ends : Ends)

def lineSize : Nat := min (if logLineSize < 256 then 256 else logLineSize.toNat) 32768

def logLine (size : Nat) : CharBuffer Char := ⟨size+1,fun _ => nul⟩

def assemble (size : Nat) (rawRecordTime : Bool) (level : Level) (fields : Fields) (message : Text) :
    Option (CharBuffer Char × Int) :=
  let line := logLine size
  if level = .raw then do
    let (line,realSize) : CharBuffer Char × Nat ←
      if rawRecordTime then (line.copy 0 (fields.rawTime ++ [nul])).map fun line => (line,21)
      else some (line,0)
    let (line,length) ← fixVsnprintf nul realSize (size - realSize) message line
    return (line,realSize + length - 1)
  else do
    let (line,m) ← fixVsnprintf nul 0 size (fields.header level) line
    let (line,n) ← fixVsnprintf nul (m-1) (size - m.toNat) message line
    return (line,m + n - 2)

def doLog (level : Level) (fields : Fields) (message : Text) :
    Option Text := do
  let line ← assemble (lineSize logLineSize) rawRecordTime level fields message
  let line ← append ['.'] [] id '.' ends.dot line
  let (buffer,size) ← append ['\n'] [] id '\n' ends.newline line
  if size < 0 then none else return buffer.text size.toNat

def front (level : Level) (fields : Fields) : Text :=
  if level = .raw then if rawRecordTime then fields.rawTime else [] else fields.header level

/-- The accesses are inside of the buffer, and the line is a begin of the header and the message
with a dot and a newline where they are missing. -/
def Assembled (level : Level) (fields : Fields)
    (message : Text) : Prop :=
  ∃ kept, doLog logLineSize rawRecordTime ends level fields message =
    some (appended ['\n'] '\n' ends.newline (appended ['.'] '.' ends.dot
      ((front rawRecordTime level fields ++ message).take kept)))

/-- A raw line without time is not empty where its end is looked at and has the length of an `int`,
as has the header of a line that is not raw. -/
def Proper (level : Level) (fields : Fields) (message : Text) : Prop :=
  if level = .raw then
    rawRecordTime ∨ message.length ≤ 2147483647 ∧ (message = [] → ends.dot = false ∧ ends.newline = false)
  else fields.length level ≤ 2147483647

end

section
variable {size : Nat} {rawRecordTime : Bool} {ends : Ends} {level : Level} {fields : Fields} {msg : Text}

theorem header_length : (fields.header level).length = fields.length level := by
  simp only [Fields.header,Fields.length]
  cases fields.module <;> cases fields.file <;> simp <;> omega

theorem lineSize_bounds (logLineSize : UInt16) :
    256 ≤ lineSize logLineSize ∧ lineSize logLineSize ≤ 32768 := by
  unfold lineSize
  split_ifs with small
  · decide
  · have large : ¬ logLineSize.toNat < 256 := fun less => small (UInt16.lt_iff_toNat_lt.mpr less)
    omega

theorem assemble_raw (large : 256 ≤ size) (small : size ≤ 32768) :
    ∃ line, assemble size false .raw fields msg = some (line,(fixed size msg : Int) - 1) ∧
      line.capacity = size + 1 ∧ ∀ length ≤ min (size-1) msg.length, line.text length = msg.take length := by
  have inside : 0 + size ≤ (logLine size).capacity := by simp [logLine]
  obtain ⟨line,done,printed⟩ := fixVsnprintf_printed nul 0 0 rfl msg inside (by omega)
  refine ⟨line,?_,printed.capacity,fun length short => ?_⟩
  · rw [assemble]
    simp [done]
  · exact printed_take [] printed rfl (.inl rfl) (by omega)

theorem assemble_timed (large : 256 ≤ size) (small : size ≤ 32768) :
    ∃ line, assemble size true .raw fields msg = some (line,(fixed (size-21) msg : Int) + 20) ∧
      line.capacity = size + 1 ∧ ∀ length ≤ 21 + min (size-22) msg.length,
        line.text length = (fields.rawTime ++ msg).take length := by
  have timed := fields.timed
  have room : (0 : Int) ≤ 0 ∧ (0 : Int) + (fields.rawTime ++ [nul]).length ≤ (logLine size).capacity := by
    simp [logLine]
    omega
  have copied : (logLine size).copy 0 (fields.rawTime ++ [nul]) =
      some ((logLine size).copied 0 (fields.rawTime ++ [nul])) :=
    if_pos room
  have time := congrArg (take 21) ((logLine size).text_copied 0 (fields.rawTime ++ [nul]))
  generalize copy : (logLine size).copied 0 (fields.rawTime ++ [nul]) = line at copied time
  have cap : line.capacity = size + 1 := congrArg CharBuffer.capacity copy.symm
  have inside : 21 + (size-21) ≤ line.capacity := by omega
  obtain ⟨line,done,printed⟩ := fixVsnprintf_printed nul 21 21 rfl msg inside (by omega)
  refine ⟨line,?_,printed.capacity.trans cap,fun length short => ?_⟩
  · rw [assemble]
    simp [copied,done]
    omega
  · refine printed_take fields.rawTime printed ?_ (.inl timed.symm) (by omega)
    rw [CharBuffer.text_take (by simp [timed]),← timed] at time
    rw [← timed,time]
    simp [CharBuffer.text]

theorem assemble_headed (large : 256 ≤ size) (small : size ≤ 32768) (other : level ≠ .raw)
    (short : fields.length level ≤ 2147483647) : ∃ line, assemble size rawRecordTime level fields msg =
        some (line,(min (fields.length level + 1) size +
          fixed (size - (fields.length level + 1)) msg : Int) - 2) ∧
      line.capacity = size + 1 ∧
        ∀ length ≤ min (fields.length level) (size-1) + min (size - fields.length level - 2) msg.length,
          line.text length = (fields.header level ++ msg).take length := by
  have inside : 0 + size ≤ (logLine size).capacity := by simp [logLine]
  obtain ⟨headed,first,header⟩ := fixVsnprintf_printed nul 0 0 rfl (fields.header level) inside (by omega)
  have m : fixed size (fields.header level) = min (fields.length level + 1) size := by
    rw [fixed,header_length,if_pos short]
  rw [m] at first
  have cap := header.capacity
  have start : ((min (fields.length level + 1) size : Nat) : Int) - 1 =
      (min (fields.length level) (size-1) : Nat) := by
    omega
  have behind : min (fields.length level) (size-1) + (size - (fields.length level + 1)) ≤
      headed.capacity := by omega
  obtain ⟨line,second,printed⟩ := fixVsnprintf_printed nul _ _ start msg behind (by omega)
  refine ⟨line,?_,printed.capacity.trans cap,fun length short => ?_⟩
  · have rest : size - min (fields.length level + 1) size = size - (fields.length level + 1) := by omega
    rw [assemble,if_neg other]
    simp only [first,bind_eq_bind,bind_some,Int.toNat_natCast,rest,second]
    simp
  · refine printed_take _ printed ?_ ?_ (by omega)
    · have inside : min (fields.length level) (size-1) ≤ 0 + min (size-1) (fields.header level).length := by
        rw [header_length]
        omega
      exact printed_take [] header rfl (.inl rfl) inside
    · rw [header_length]
      omega

theorem appended_length (stops : Text) (char : Char) (enabled : Bool) (text : Text) :
    text.length ≤ (appended stops char enabled text).length ∧
      (appended stops char enabled text).length ≤ text.length + 1 := by
  unfold appended
  split_ifs <;> simp

variable {logLineSize : UInt16}

theorem assembled_of_take {line : CharBuffer Char} {realSize : Int} {text : Text}
    (done : assemble (lineSize logLineSize) rawRecordTime level fields msg = some (line,realSize))
    (cap : line.capacity = lineSize logLineSize + 1) (whole : front rawRecordTime level fields ++ msg = text)
    (length : Nat) (same : realSize = length) (inside : length ≤ text.length)
    (short : length < lineSize logLineSize)
    (written : line.text length = text.take length) (start : ends.dot ∨ ends.newline → 0 < length) :
    Assembled logLineSize rawRecordTime ends level fields msg := by
  have size : (text.take length).length = length := by rw [length_take,Nat.min_eq_left inside]
  have holds : Holds (lineSize logLineSize + 1) (text.take length) (line,realSize) :=
    ⟨cap,by rw [size]; exact same,by rw [size]; exact written⟩
  have start : ends.dot ∨ ends.newline → text.take length ≠ [] :=
    fun enabled none => Nat.ne_of_gt (start enabled) (size ▸ congrArg List.length none)
  have longer := appended_length ['.'] '.' ends.dot (text.take length)
  obtain ⟨dotted,first⟩ : ∃ after, append ['.'] [] id '.' ends.dot (line,realSize) = some after :=
    append_some holds (fun dot => start (.inl dot)) (by simp; omega)
  have holds := append_holds holds first fun same => same
  have still : ends.newline → appended ['.'] '.' ends.dot (text.take length) ≠ [] := by
    intro newline none
    rw [none] at longer
    exact start (.inr newline) (List.length_eq_zero_iff.mp (Nat.le_zero.mp longer.1))
  obtain ⟨last,second⟩ : ∃ after, append ['\n'] [] id '\n' ends.newline dotted = some after :=
    append_some holds still (by simp; omega)
  obtain ⟨-,size,final⟩ := append_holds holds second fun same => same
  refine ⟨length,?_⟩
  rw [doLog,done,whole]
  simp [first,second,size,final]

theorem doLog_none {line : CharBuffer Char × Int}
    (done : assemble (lineSize logLineSize) rawRecordTime level fields msg = some line)
    (fails : line.2 < 0 ∨ line.2 = 0 ∧ (ends.dot ∨ ends.newline)) :
    doLog logLineSize rawRecordTime ends level fields msg = none := by
  have before : line.1.read (line.2 - 1) = none := if_neg (by omega)
  obtain ⟨dot,newline⟩ := ends
  rw [doLog,done]
  cases dot with
  | true => simp [append,before]
  | false =>
    cases newline with
    | true => simp [append,before]
    | false =>
      have neg : line.2 < 0 := by simpa using fails
      simp [append,neg]

theorem assemble_long (large : 256 ≤ size) (small : size ≤ 32768) (other : level ≠ .raw)
    (long : ¬fields.length level ≤ 2147483647) : assemble size rawRecordTime level fields msg = none := by
  have inside : 0 + size ≤ (logLine size).capacity := by simp [logLine]
  obtain ⟨headed,first,-⟩ := fixVsnprintf_printed nul 0 0 rfl (fields.header level) inside (by omega)
  rw [fixed,header_length,if_neg long] at first
  have second : fixVsnprintf nul (-1) size msg headed = none := by
    have outside : headed.copy (-1) (msg.take (size-1) ++ [nul]) = none := if_neg (by simp)
    rw [fixVsnprintf,CharBuffer.vsnprintf,if_neg (show ¬size = 0 by omega)]
    rfl
  rw [assemble,if_neg other]
  simp [first,second]

variable (logLineSize : UInt16)

theorem raw_iff : Assembled logLineSize false ends .raw fields msg ↔
    msg.length ≤ 2147483647 ∧ (msg = [] → ends.dot = false ∧ ends.newline = false) := by
  obtain ⟨large,small⟩ := lineSize_bounds logLineSize
  obtain ⟨line,done,cap,written⟩ := assemble_raw large small
  constructor
  · rintro ⟨kept,assembled⟩
    by_contra improper
    rw [doLog_none done] at assembled
    · cases assembled
    · unfold fixed
      split_ifs with short
      · rw [not_and,Classical.not_imp,← Bool.not_eq_true,← Bool.not_eq_true,← not_or,not_not] at improper
        obtain ⟨rfl,enabled⟩ := improper short
        exact .inr ⟨by simp; omega,enabled⟩
      · exact .inl (by omega)
  · rintro ⟨short,empty⟩
    have length : (fixed (lineSize logLineSize) msg : Int) - 1 =
        (min (lineSize logLineSize - 1) msg.length : Nat) := by
      rw [fixed,if_pos short]
      omega
    refine assembled_of_take done cap rfl _ length (Nat.min_le_right _ _) (by omega)
      (written _ (Nat.le_refl _)) ?_
    intro enabled
    have some : msg ≠ [] := by
      intro none
      simp [empty none] at enabled
    have pos := length_pos_iff.mpr some
    omega

theorem timed_assembled : Assembled logLineSize true ends .raw fields msg := by
  obtain ⟨large,small⟩ := lineSize_bounds logLineSize
  obtain ⟨line,done,cap,written⟩ := assemble_timed large small
  have timed := fields.timed
  obtain ⟨length,same,some,inside⟩ : ∃ length :
    Nat, (fixed (lineSize logLineSize - 21) msg : Int) + 20 = length ∧
      0 < length ∧ length ≤ 21 + min (lineSize logLineSize - 22) msg.length := by
    refine ⟨fixed (lineSize logLineSize - 21) msg + 20,rfl,Nat.succ_pos _,?_⟩
    unfold fixed
    split_ifs <;> omega
  have fits : length ≤ (fields.rawTime ++ msg).length := by
    rw [length_append]
    omega
  exact assembled_of_take done cap rfl length same fits (by omega) (written _ inside) fun _ => some

theorem headed_assembled (other : level ≠ .raw) (short : fields.length level ≤ 2147483647) :
    Assembled logLineSize rawRecordTime ends level fields msg := by
  obtain ⟨large,small⟩ := lineSize_bounds logLineSize
  obtain ⟨line,done,cap,written⟩ :=
    assemble_headed large small other short
  have seven : 7 ≤ fields.length level := by
    unfold Fields.length
    omega
  obtain ⟨length,same,some,inside⟩ : ∃ length :
    Nat, ((min (fields.length level + 1) (lineSize logLineSize) : Nat) : Int) +
        fixed (lineSize logLineSize - (fields.length level + 1)) msg - 2 = length ∧ 0 < length ∧
      length ≤ min (fields.length level) (lineSize logLineSize - 1) +
        min (lineSize logLineSize - fields.length level - 2) msg.length := by
    refine ⟨min (fields.length level + 1) (lineSize logLineSize) +
      fixed (lineSize logLineSize - (fields.length level + 1)) msg - 2,?_⟩
    unfold fixed
    split_ifs <;> omega
  refine assembled_of_take done cap (by rw [front,if_neg other]) length same ?_ (by omega) (written _ inside)
    fun _ => some
  rw [length_append,header_length]
  omega

end

theorem safe_line_iff (logLineSize : UInt16) (rawRecordTime : Bool) (ends : Ends) (level : Level)
    (fields : Fields)
    (message : Text) : Assembled logLineSize rawRecordTime ends level fields message ↔
      Proper rawRecordTime ends level fields message := by
  unfold Proper
  by_cases raw : level = .raw
  · subst raw
    cases rawRecordTime with
    | false => simpa using raw_iff logLineSize
    | true => exact iff_of_true (timed_assembled logLineSize) (.inl rfl)
  · rw [if_neg raw]
    constructor
    · rintro ⟨kept,done⟩
      by_contra long
      obtain ⟨large,small⟩ := lineSize_bounds logLineSize
      rw [doLog,assemble_long large small raw long] at done
      cases done
    · exact headed_assembled logLineSize raw

theorem safe_line_raw_empty :
    ¬Assembled 1024 false ⟨false,true⟩ .raw ⟨[],[],[],none,none,replicate 21 '0',by decide⟩ [] := by
  have outside : doLog 1024 false ⟨false,true⟩ .raw ⟨[],[],[],none,none,replicate 21 '0',by decide⟩
      [] = none := by
    decide +kernel
  rintro ⟨kept,done⟩
  exact some_ne_none _ (done.symm.trans outside)

end Safe

end Mooon.Lines

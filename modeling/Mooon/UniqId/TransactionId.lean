import Mooon.OutStream
import Mooon.UniqId.Attempts

/-! The transaction ids of `CUniqId`. A format is read byte by byte, and what its directives stand
for is printed to one stream, so that an id could depend on the order of its pieces. -/
namespace Mooon.UniqId.TransactionId
open Mooon.UniqId.Client hiding getLabelAndSeq
open Mooon.UniqId.Attempts

def errorParameter : UInt32 := 201600009

/-- What ends a call early: an exception, a failed assertion, a division by zero, or a read after
the end of the format. -/
inductive Fault where
  | thrown (failure : Failure)
  | assertion
  | division
  | pastEnd
deriving DecidableEq

def invalidFormat : Fault := .thrown (.exception errorParameter)

inductive IntType where
  | int
  | uint32
deriving DecidableEq

def IntType.cast : IntType → Nat → Int
  | .int, value => Int.bmod value 4294967296
  | .uint32, value => (value % 4294967296 : Nat)

def decWidthTable : List Nat := [0,9,99,999,9999,99999,999999,9999999,99999999,999999999]

def hexWidthTable : List Nat :=
  [0x0,0x9,0x99,0x999,0x9999,0x99999,0x999999,0x9999999,0x99999999,0x999999999]

def limited (table : List Nat) (type : IntType) (m : Int) (width : Nat) : Int :=
  type.cast ((m % 18446744073709551616).toNat % table.getD width 0)

def withWidth (asserts : Bool) (table : List Nat) (type : IntType) (m : Int)
    (width : Nat) : Except Fault Int :=
  if asserts ∧ ¬ (0 < width ∧ width < 10 ∧ 0 ≤ m) then .error .assertion
  else if table.getD width 0 = 0 then .error .division
  else .ok (limited table type m width)

def decWithWidth (asserts : Bool) : IntType → Int → Nat → Except Fault Int := withWidth asserts decWidthTable

def hexWithWidth (asserts : Bool) : IntType → Int → Nat → Except Fault Int := withWidth asserts hexWidthTable

structure LocalTime extends Tm where
  tmMin : Int
deriving DecidableEq

/-- One variable argument, as `va_arg` reads it at either type. A string is given by its bytes
before the NUL. -/
structure Argument where
  int : Int32
  string : List UInt8
deriving DecidableEq

structure Context where
  asserts : Bool
  now : LocalTime
  label : UInt8
  args : Nat → Argument

structure Format where
  bytes : List UInt8
  noNul : 0 ∉ bytes

section
variable (context : Context) (seq : UInt32)

def sized (width : Nat) (directive : UInt8) (argument : Argument) (result : OutStream) :
    Except Fault (OutStream × Nat) :=
  match Char.ofUInt8 directive with
  | 'S' => (decWithWidth context.asserts .uint32 seq.toNat width).map fun value =>
      (result.dec.setw width |>.setfill 48 |>.print value,0)
  | 'd' => (decWithWidth context.asserts .int argument.int.toInt width).map fun value =>
      (result.dec.setw width |>.setfill 48 |>.print value,1)
  | 'X' => (hexWithWidth context.asserts .int argument.int.toInt width).map fun value =>
      (result.hex.setw width |>.setfill 48 |>.upper |>.print value,1)
  | _ => .error invalidFormat

def unsized (directive : UInt8) (argument : Argument) (result : OutStream) : Except Fault (OutStream × Nat) :=
  match Char.ofUInt8 directive with
  | 'd' => .ok (result.dec.print argument.int.toInt,1)
  | 'X' => .ok (result.hex.upper.print argument.int.toInt,1)
  | 's' => .ok (result.put argument.string,1)
  -- the only number that is printed in the base that the stream happens to have
  | 'S' => .ok (result.print seq.toNat,0)
  | 'L' => .ok (result.hex.setw 2 |>.setfill 48 |>.upper |>.print context.label.toNat,0)
  | 'Y' => .ok (result.dec.setw 4 |>.setfill 48 |>.print (context.now.tmYear+1900),0)
  | 'M' => .ok (result.dec.setw 2 |>.setfill 48 |>.print (context.now.tmMon+1),0)
  | 'D' => .ok (result.dec.setw 2 |>.setfill 48 |>.print context.now.tmMday,0)
  | 'H' => .ok (result.dec.setw 2 |>.setfill 48 |>.print context.now.tmHour,0)
  | 'm' => .ok (result.dec.setw 2 |>.setfill 48 |>.print context.now.tmMin,0)
  | _ => .error invalidFormat

def render : List UInt8 → Nat → OutStream → Except Fault OutStream
  | [], _, _ => .error .pastEnd
  | byte::rest, next, result =>
    if byte = 0 then .ok result
    else if byte ≠ '%'.toUInt8 then render rest next (result.put [byte])
    else
      match rest with
      | [] => .error .pastEnd
      | first::rest =>
        if first = 0 then .error invalidFormat
        else if isDigit first then
          match rest with
          | [] => .error .pastEnd
          | directive::rest =>
            match sized context seq (first.toNat - 48) directive (context.args next) result with
            | .error fault => .error fault
            | .ok (result,taken) => render rest (next+taken) result
        else
          match unsized context seq first (context.args next) result with
          | .error fault => .error fault
          | .ok (result,taken) => render rest (next+taken) result

def transactionId (format : Format) : Except Fault (List UInt8) :=
  (render context seq (format.bytes ++ [0]) 0 .empty).map OutStream.text

end

def transactionIds (context : Context) (format : Format) :
    Nat → UInt32 → List (List UInt8) → List (List UInt8) × Option Fault
  | 0, _, idVec => (idVec,none)
  | left+1, seq, idVec =>
    match transactionId context seq format with
    | .error fault => (idVec,some fault)
    | .ok id => transactionIds context format left (seq+1) (idVec ++ [id])

section
variable (asserts : Bool) (attempts : Nat → Attempt) (random : UInt32) (client : CUniqId) (now : LocalTime)

def getTransactionIds (num : UInt16) (idVec : List (List UInt8)) (format : Format) (args : Nat → Argument) :
    CUniqId × List (List UInt8) × Option Fault :=
  let called := getLabelAndSeq attempts random client num
  match called.result with
  | .error failure => (called.client,idVec,some (.thrown failure))
  | .ok (label,seq) => (called.client,transactionIds ⟨asserts,now,label,args⟩ format num.toNat seq idVec)

def getTransactionId (format : Format) (args : Nat → Argument) : CUniqId × Except Fault (List UInt8) :=
  match getTransactionIds asserts attempts random client now 1 [] format args with
  | (client,_,some fault) => (client,.error fault)
  | (client,idVec,none) => (client,.ok (idVec.headD []))

end

inductive Kind where
  | year
  | month
  | day
  | hour
  | minute
  | sequence
  | label
  | integer
  | string
  | hexadecimal
deriving DecidableEq

inductive SizedKind where
  | sequence
  | integer
  | hexadecimal
deriving DecidableEq

def Kind.letter : Kind → UInt8
  | .year => 'Y'.toUInt8
  | .month => 'M'.toUInt8
  | .day => 'D'.toUInt8
  | .hour => 'H'.toUInt8
  | .minute => 'm'.toUInt8
  | .sequence => 'S'.toUInt8
  | .label => 'L'.toUInt8
  | .integer => 'd'.toUInt8
  | .string => 's'.toUInt8
  | .hexadecimal => 'X'.toUInt8

def SizedKind.letter : SizedKind → UInt8
  | .sequence => 'S'.toUInt8
  | .integer => 'd'.toUInt8
  | .hexadecimal => 'X'.toUInt8

inductive Piece where
  | literal (byte : UInt8) (plain : byte ≠ 0 ∧ byte ≠ '%'.toUInt8)
  | directive (kind : Kind)
  | sized (width : Fin 10) (kind : SizedKind)
deriving DecidableEq

def Piece.spelling : Piece → List UInt8
  | .literal byte _ => [byte]
  | .directive kind => ['%'.toUInt8,kind.letter]
  | .sized width kind => ['%'.toUInt8,digitByte width,kind.letter]

def spelled (pieces : List Piece) : List UInt8 := pieces.flatMap Piece.spelling

def Piece.takes : Piece → Nat
  | .directive .integer | .directive .hexadecimal | .directive .string => 1
  | .sized _ .integer | .sized _ .hexadecimal => 1
  | _ => 0

def assigned (args : Nat → Argument) : Nat → List Piece → List (Piece × Argument)
  | _, [] => []
  | next, piece::rest => (piece,args next) :: assigned args (next+piece.takes) rest

def zeroPadded (width : Nat) (text : List UInt8) : List UInt8 := text.leftpad width 48

def upperHexadecimal (value : Int) : List UInt8 := Mooon.hexadecimal true (value % 4294967296).toNat

section
variable (now : LocalTime) (label : UInt8) (seq : UInt32) (argument : Argument)

def Piece.rendering : Piece → List UInt8
  | .literal byte _ => [byte]
  | .directive .year => zeroPadded 4 (signedDecimal (now.tmYear+1900))
  | .directive .month => zeroPadded 2 (signedDecimal (now.tmMon+1))
  | .directive .day => zeroPadded 2 (signedDecimal now.tmMday)
  | .directive .hour => zeroPadded 2 (signedDecimal now.tmHour)
  | .directive .minute => zeroPadded 2 (signedDecimal now.tmMin)
  | .directive .sequence => decimal seq.toNat
  | .directive .label => zeroPadded 2 (upperHexadecimal label.toNat)
  | .directive .integer => signedDecimal argument.int.toInt
  | .directive .string => argument.string
  | .directive .hexadecimal => upperHexadecimal argument.int.toInt
  | .sized width .sequence => zeroPadded width (signedDecimal (limited decWidthTable .uint32 seq.toNat width))
  | .sized width .integer =>
    zeroPadded width (signedDecimal (limited decWidthTable .int argument.int.toInt width))
  | .sized width .hexadecimal =>
    zeroPadded width (upperHexadecimal (limited hexWidthTable .int argument.int.toInt width))

end

def Independent (context : Context) (seq : UInt32) (format : Format) (id : List UInt8) : Prop :=
  ∃ pieces, format.bytes = spelled pieces ∧
    id = (assigned context.args 0 pieces).flatMap fun item =>
      item.1.rendering context.now context.label seq item.2

def Rendered (context : Context) (seq : UInt32) (format : Format) (num : Nat) (idVec : List (List UInt8))
    (outcome : List (List UInt8) × Option Fault) : Prop :=
  outcome.2 = some invalidFormat ∨
    outcome.2 = none ∧ ∃ ids : List (List UInt8), outcome.1 = idVec ++ ids ∧ ids.length = num ∧
      ∀ index id, ids[index]? = some id → Independent context (seq + UInt32.ofNat index) format id

/-- A width is not zero, and under assertions what it limits is not negative. -/
def Piece.Sound (asserts : Bool) (argument : Argument) : Piece → Prop
  | .sized width .sequence => width ≠ 0
  | .sized width _ => width ≠ 0 ∧ (asserts → 0 ≤ argument.int.toInt)
  | _ => True

def Piece.base : Piece → Option Base
  | .literal _ _ | .directive .sequence | .directive .string => none
  | .directive .label | .directive .hexadecimal | .sized _ .hexadecimal => some .hex
  | _ => some .dec

def baseAfter (base : Base) (pieces : List Piece) : Base :=
  pieces.foldl (fun base piece => piece.base.getD base) base

/-- Every directive that is reached is sound, and a sequence number after `%L` or `%X` that no
directive sets back to decimal has one digit. -/
structure Harmless (asserts : Bool) (args : Nat → Argument) (num : Nat) (seq : UInt32)
    (format : Format) : Prop where
  sound : ∀ pieces rest, format.bytes = spelled pieces ++ rest →
    ∀ item ∈ assigned args 0 pieces, item.1.Sound asserts item.2
  based : ∀ before after, format.bytes = spelled (before ++ .directive .sequence :: after) →
    baseAfter .dec before = .hex → ∀ index < num, (seq + UInt32.ofNat index).toNat < 10

theorem spelled_cons (piece : Piece)
    (rest : List Piece) : spelled (piece::rest) = piece.spelling ++ spelled rest :=
  List.flatMap_cons

theorem eq_of_ofUInt8 {byte : UInt8} {letter : Char} (same : Char.ofUInt8 byte = letter) :
    byte = letter.toUInt8 := by
  rw [← same]
  exact (UInt8.toUInt8_toUInt32 byte).symm

variable {kind : Kind}

theorem Kind.letter_injective {other : Kind} (same : kind.letter = other.letter) : kind = other := by
  cases kind <;> cases other <;> first | rfl | exact absurd same (by decide)

theorem SizedKind.letter_injective {kind other : SizedKind} (same : kind.letter = other.letter) :
    kind = other := by
  cases kind <;> cases other <;> first | rfl | exact absurd same (by decide)

theorem Kind.letter_plain (kind : Kind) : kind.letter ≠ 0 ∧ isDigit kind.letter = false := by
  cases kind <;> decide

theorem digitByte_fin (width : Fin 10) :
    digitByte width ≠ 0 ∧ isDigit (digitByte width) ∧ (digitByte width).toNat - 48 = width.val := by
  decide +revert

theorem digitByte_ne_letter {width : Fin 10} : digitByte width ≠ kind.letter := by
  intro same
  have digit := (digitByte_fin width).2.1
  rw [same,kind.letter_plain.2] at digit
  cases digit

variable {rest : List UInt8} {piece : Piece}

theorem spelling_append {other : Piece} {later : List UInt8}
    (same : piece.spelling ++ rest = other.spelling ++ later) : piece = other ∧ rest = later := by
  cases piece with
  | literal byte plain =>
    cases other with
    | literal other _ =>
      obtain ⟨rfl,after⟩ := List.cons.inj same
      exact ⟨rfl,after⟩
    | directive kind | sized width kind => exact absurd (List.cons.inj same).1 plain.2
  | directive kind =>
    cases other with
    | literal other plain => exact absurd (List.cons.inj same).1.symm plain.2
    | directive other =>
      obtain ⟨letter,after⟩ := List.cons.inj (List.cons.inj same).2
      rw [Kind.letter_injective letter]
      exact ⟨rfl,after⟩
    | sized width other =>
      exact absurd (List.cons.inj (List.cons.inj same).2).1.symm digitByte_ne_letter
  | sized width kind =>
    cases other with
    | literal other plain => exact absurd (List.cons.inj same).1.symm plain.2
    | directive other => exact absurd (List.cons.inj (List.cons.inj same).2).1 digitByte_ne_letter
    | sized size other =>
      obtain ⟨digit,last⟩ := List.cons.inj (List.cons.inj same).2
      obtain ⟨letter,after⟩ := List.cons.inj last
      have width_eq : width = size := by
        apply Fin.ext
        rw [← (digitByte_fin width).2.2,digit,(digitByte_fin size).2.2]
      rw [width_eq,SizedKind.letter_injective letter]
      exact ⟨rfl,after⟩

theorem spelling_ne_nil : piece.spelling ≠ [] := by
  cases piece <;> exact List.cons_ne_nil _ _

theorem spelled_injective {pieces others : List Piece} (same : spelled pieces = spelled others) :
    pieces = others := by
  induction pieces generalizing others with
  | nil =>
    cases others with
    | nil => rfl
    | cons other others =>
      exact absurd (List.append_eq_nil_iff.mp same.symm).1 spelling_ne_nil
  | cons piece pieces ih =>
    cases others with
    | nil =>
      exact absurd (List.append_eq_nil_iff.mp same).1 spelling_ne_nil
    | cons other others =>
      obtain ⟨rfl,after⟩ := spelling_append same
      rw [ih after]

variable (directive : UInt8)

theorem unsized_cases : (∃ kind : Kind, directive = kind.letter) ∨
      ∀ ctx seq arg res, unsized ctx seq directive arg res = .error invalidFormat := by
  by_cases known : ∃ kind : Kind, directive = kind.letter
  · exact .inl known
  · refine .inr fun ctx seq arg res => ?_
    unfold unsized
    split
    case h_1 letter => exact absurd ⟨.integer,eq_of_ofUInt8 letter⟩ known
    case h_2 letter => exact absurd ⟨.hexadecimal,eq_of_ofUInt8 letter⟩ known
    case h_3 letter => exact absurd ⟨.string,eq_of_ofUInt8 letter⟩ known
    case h_4 letter => exact absurd ⟨.sequence,eq_of_ofUInt8 letter⟩ known
    case h_5 letter => exact absurd ⟨.label,eq_of_ofUInt8 letter⟩ known
    case h_6 letter => exact absurd ⟨.year,eq_of_ofUInt8 letter⟩ known
    case h_7 letter => exact absurd ⟨.month,eq_of_ofUInt8 letter⟩ known
    case h_8 letter => exact absurd ⟨.day,eq_of_ofUInt8 letter⟩ known
    case h_9 letter => exact absurd ⟨.hour,eq_of_ofUInt8 letter⟩ known
    case h_10 letter => exact absurd ⟨.minute,eq_of_ofUInt8 letter⟩ known
    case h_11 => rfl

theorem sized_cases : (∃ kind : SizedKind, directive = kind.letter) ∨
      ∀ ctx seq width arg res, sized ctx seq width directive arg res = .error invalidFormat := by
  by_cases known : ∃ kind : SizedKind, directive = kind.letter
  · exact .inl known
  · refine .inr fun ctx seq width arg res => ?_
    unfold sized
    split
    case h_1 letter => exact absurd ⟨.sequence,eq_of_ofUInt8 letter⟩ known
    case h_2 letter => exact absurd ⟨.integer,eq_of_ofUInt8 letter⟩ known
    case h_3 letter => exact absurd ⟨.hexadecimal,eq_of_ofUInt8 letter⟩ known
    case h_4 => rfl

section
variable (ctx : Context) (seq : UInt32)

theorem render_literal {byte : UInt8} (plain : byte ≠ 0 ∧ byte ≠ '%'.toUInt8) (rest : List UInt8) (next : Nat)
    (res : OutStream) :
    render ctx seq (byte::rest) next res = render ctx seq rest next (res.put [byte]) := by
  rw [render.eq_def]
  dsimp only
  rw [if_neg plain.1,if_pos plain.2]

variable {first : UInt8}

theorem render_unsized (plain : first ≠ 0) (letter : isDigit first = false) (rest : List UInt8)
    (next : Nat) (res : OutStream) :
    render ctx seq ('%'.toUInt8::first::rest) next res =
      match unsized ctx seq first (ctx.args next) res with
      | .error fault => .error fault
      | .ok (res,taken) => render ctx seq rest (next+taken) res := by
  rw [render.eq_def]
  dsimp only
  rw [if_neg (by decide),if_neg (not_not_intro rfl),if_neg plain,letter,if_neg Bool.false_ne_true]

theorem render_sized (plain : first ≠ 0) (digit : isDigit first = true) (directive : UInt8)
    (rest : List UInt8) (next : Nat) (res : OutStream) :
    render ctx seq ('%'.toUInt8::first::directive::rest) next res =
      match sized ctx seq (first.toNat - 48) directive (ctx.args next) res with
      | .error fault => .error fault
      | .ok (res,taken) => render ctx seq rest (next+taken) res := by
  rw [render.eq_def]
  dsimp only
  rw [if_neg (by decide),if_neg (not_not_intro rfl),if_neg plain,if_pos digit]

end

def Refused (rest : List UInt8) : Prop :=
  ∀ context seq next result, render context seq (rest ++ [0]) next result = .error invalidFormat

theorem refused_end : Refused ['%'.toUInt8] := by
  intro ctx seq next res
  rfl

variable {first : UInt8}

theorem refused_unsized (plain : first ≠ 0) (letter : isDigit first = false)
    (unknown : ∀ ctx seq arg res, unsized ctx seq first arg res = .error invalidFormat) :
    Refused ('%'.toUInt8::first::rest) := by
  intro ctx seq next res
  rw [List.cons_append,List.cons_append,render_unsized ctx seq plain letter,unknown]

theorem refused_sized {directive : UInt8} (plain : first ≠ 0) (digit : isDigit first = true)
    (unknown : ∀ ctx seq width arg res,
      sized ctx seq width directive arg res = .error invalidFormat)
    : Refused ('%'.toUInt8::first::directive::rest) := by
  intro ctx seq next res
  rw [List.cons_append,List.cons_append,List.cons_append,render_sized ctx seq plain digit,unknown]

theorem refused_width (plain : first ≠ 0) (digit : isDigit first = true) : Refused ['%'.toUInt8,first] := by
  intro ctx seq next res
  have unknown : ∀ width arg res, sized ctx seq width 0 arg res = .error invalidFormat := by
    intro width arg res
    rfl
  rw [List.cons_append,List.cons_append,List.nil_append,render_sized ctx seq plain digit,unknown]

theorem digit_width (digit : isDigit first = true) : ∃ width : Fin 10, first = digitByte width := by
  unfold isDigit at digit
  simp only [Bool.and_eq_true,decide_eq_true_eq] at digit
  have low : 48 ≤ first.toNat := digit.1
  have high : first.toNat ≤ 57 := digit.2
  refine ⟨⟨first.toNat-48,by omega⟩,?_⟩
  unfold digitByte
  rw [Nat.add_sub_cancel' low,UInt8.ofNat_toNat]

theorem format_cases : (bytes : List UInt8) → 0 ∉ bytes →
    ∃ pieces rest, bytes = spelled pieces ++ rest ∧ (rest = [] ∨ Refused rest)
  | [], _ => ⟨[],[],rfl,.inl rfl⟩
  | byte::rest, noNul => by
    obtain ⟨nonzero,after⟩ := not_or.mp (List.mem_cons.not.mp noNul)
    by_cases percent : byte = '%'.toUInt8
    · subst percent
      cases rest with
      | nil => exact ⟨[],['%'.toUInt8],rfl,.inr refused_end⟩
      | cons first rest =>
        obtain ⟨present,beyond⟩ := not_or.mp (List.mem_cons.not.mp after)
        cases digit : isDigit first with
        | false =>
          rcases unsized_cases first with ⟨kind,rfl⟩ | unknown
          · obtain ⟨pieces,later,read,ended⟩ := format_cases rest beyond
            refine ⟨.directive kind::pieces,later,?_,ended⟩
            rw [spelled_cons,read]
            rfl
          · exact ⟨[],_,rfl,.inr (refused_unsized (Ne.symm present) digit unknown)⟩
        | true =>
          cases rest with
          | nil => exact ⟨[],_,rfl,.inr (refused_width (Ne.symm present) digit)⟩
          | cons directive rest =>
            rcases sized_cases directive with ⟨kind,rfl⟩ | unknown
            · obtain ⟨width,rfl⟩ := digit_width digit
              obtain ⟨pieces,later,read,ended⟩ :=
                format_cases rest (not_or.mp (List.mem_cons.not.mp beyond)).2
              refine ⟨.sized width kind::pieces,later,?_,ended⟩
              rw [spelled_cons,read]
              rfl
            · exact ⟨[],_,rfl,.inr (refused_sized (Ne.symm present) digit unknown)⟩
    · obtain ⟨pieces,later,read,ended⟩ := format_cases rest after
      refine ⟨.literal byte ⟨Ne.symm nonzero,percent⟩::pieces,later,?_,ended⟩
      rw [spelled_cons,read]
      rfl

end Mooon.UniqId.TransactionId

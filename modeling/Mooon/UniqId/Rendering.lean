import Mooon.UniqId.TransactionId

/-! The text of a transaction id, piece by piece. One stream prints all of them, and its base is the
only thing that a piece leaves to the next ones. -/
namespace Mooon.UniqId.TransactionId
open Mooon.UniqId.Client hiding getLabelAndSeq
open Mooon.UniqId.Attempts

structure Settled (stream : OutStream) : Prop where
  narrow : stream.width = 0
  upper : stream.base = .hex → stream.uppercase = true

section
variable (context : Context) (seq : UInt32)

def Piece.shown (base : Base) (argument : Argument) : Piece → List UInt8
  | .directive .sequence =>
    match base with
    | .dec => decimal seq.toNat
    | .hex => Mooon.hexadecimal true seq.toNat
  | piece => piece.rendering context.now context.label seq argument

def shownAll : Base → List (Piece × Argument) → List UInt8
  | _, [] => []
  | base, item::rest => item.1.shown context seq base item.2 ++ shownAll (item.1.base.getD base) rest

structure Printed (argument : Argument) (piece : Piece) (before after : OutStream) : Prop where
  settled : Settled after
  text : after.text = before.text ++ piece.shown context seq before.base argument
  base : after.base = piece.base.getD before.base

variable {ctx seq} {arg : Argument} {before : OutStream} {item : List UInt8}

theorem put_text {stream : OutStream} (narrow : stream.width = 0) :
    (stream.put item).text = stream.text ++ item := by
  unfold OutStream.put
  rw [narrow]
  simp

theorem signedDecimal_natCast {value : Nat} : signedDecimal value = decimal value := by
  unfold signedDecimal
  rw [if_neg (by omega),Int.natAbs_natCast]

variable {piece : Piece}

theorem printed_put (settled : Settled before)
    (shown : piece.shown ctx seq before.base arg = item) (base : piece.base = none) :
    Printed ctx seq arg piece before (before.put item) := by
  refine ⟨⟨rfl,settled.upper⟩,?_,?_⟩
  · rw [put_text settled.narrow,shown]
  · rw [base]
    rfl

variable {value : Int} {width : Nat}

theorem printed_dec
    (shown : piece.shown ctx seq before.base arg = zeroPadded width (signedDecimal value))
    (base : piece.base = some .dec) :
    Printed ctx seq arg piece before (before.dec.setw width |>.setfill 48 |>.print value) := by
  refine ⟨⟨rfl,fun bad => Base.noConfusion bad⟩,?_,?_⟩
  · rw [shown]
    rfl
  · rw [base]
    rfl

theorem printed_hex
    (shown : piece.shown ctx seq before.base arg = zeroPadded width (upperHexadecimal value))
    (base : piece.base = some .hex) :
    Printed ctx seq arg piece before (before.hex.setw width |>.setfill 48 |>.upper |>.print value) := by
  refine ⟨⟨rfl,fun _ => rfl⟩,?_,?_⟩
  · rw [shown]
    rfl
  · rw [base]
    rfl

theorem printed_sequence (settled : Settled before) :
    Printed ctx seq arg (.directive .sequence) before (before.print seq.toNat) := by
  have inside : ((seq.toNat : Int) % 4294967296).toNat = seq.toNat := by
    have := seq.toNat_lt
    omega
  cases base : before.base with
  | dec =>
    have same : before.print seq.toNat = before.put (decimal seq.toNat) := by
      unfold OutStream.print
      rw [base,signedDecimal_natCast]
    rw [same]
    refine printed_put settled ?_ rfl
    rw [base]
    rfl
  | hex =>
    have same : before.print seq.toNat = before.put (Mooon.hexadecimal true seq.toNat) := by
      unfold OutStream.print
      rw [base,settled.upper base,inside]
    rw [same]
    refine printed_put settled ?_ rfl
    rw [base]
    rfl

theorem unsized_kind (settled : Settled before) {kind : Kind} :
    ∃ after, unsized ctx seq kind.letter arg before = .ok (after,(Piece.directive kind).takes) ∧
      Printed ctx seq arg (.directive kind) before after := by
  cases kind with
  | year | month | day | hour | minute => exact ⟨_,rfl,printed_dec rfl rfl⟩
  | sequence => exact ⟨_,rfl,printed_sequence settled⟩
  | label => exact ⟨_,rfl,printed_hex rfl rfl⟩
  | integer =>
    refine ⟨_,rfl,⟨rfl,fun bad => Base.noConfusion bad⟩,?_,rfl⟩
    exact put_text settled.narrow
  | string => exact ⟨_,rfl,printed_put settled rfl rfl⟩
  | hexadecimal =>
    refine ⟨_,rfl,⟨rfl,fun _ => rfl⟩,?_,rfl⟩
    exact put_text settled.narrow

variable {width : Fin 10} {asserts : Bool} (type : IntType)

theorem withWidth_ok {table : List Nat} {m : Int}
    (entry : table.getD width 0 ≠ 0) (pos : width ≠ 0) (nonnegative : asserts → 0 ≤ m) :
    withWidth asserts table type m width = .ok (limited table type m width) := by
  have above := Nat.pos_of_ne_zero fun zero => pos (Fin.ext zero)
  unfold withWidth
  rw [if_neg fun failed => failed.2 ⟨above,width.isLt,nonnegative failed.1⟩,if_neg entry]

def Crash (fault : Fault) : Prop := fault = .assertion ∨ fault = .division

theorem withWidth_crash (table : List Nat) (type : IntType) (m : Int)
    (first : table.getD 0 0 = 0) (unsound : width = 0 ∨ asserts ∧ m < 0) :
    ∃ fault, Crash fault ∧ withWidth asserts table type m width = .error fault := by
  unfold withWidth
  by_cases failed : asserts ∧ ¬ (0 < width.val ∧ width.val < 10 ∧ 0 ≤ m)
  · rw [if_pos failed]
    exact ⟨.assertion,.inl rfl,rfl⟩
  · rw [if_neg failed]
    rcases unsound with rfl | ⟨asserted,neg⟩
    · exact ⟨.division,.inr rfl,if_pos first⟩
    · exact absurd ⟨asserted,fun passed => absurd passed.2.2 (by omega)⟩ failed

theorem table_entry : ∀ width :
    Fin 10, width ≠ 0 → decWidthTable.getD width 0 ≠ 0 ∧ hexWidthTable.getD width 0 ≠ 0 := by
  decide

variable {kind : SizedKind}

theorem sized_kind (sound : (Piece.sized width kind).Sound ctx.asserts arg) :
    ∃ after, sized ctx seq width kind.letter arg before = .ok (after,(Piece.sized width kind).takes) ∧
      Printed ctx seq arg (.sized width kind) before after := by
  cases kind with
  | sequence =>
    have value := withWidth_ok .uint32 (table_entry width sound).1 sound
      (fun _ => Int.natCast_nonneg seq.toNat : ctx.asserts → 0 ≤ (seq.toNat : Int))
    refine ⟨_,?_,printed_dec rfl rfl⟩
    exact congrArg (Except.map _) value
  | integer =>
    have value := withWidth_ok .int (table_entry width sound.1).1 sound.1 sound.2
    refine ⟨_,?_,printed_dec rfl rfl⟩
    exact congrArg (Except.map _) value
  | hexadecimal =>
    have value := withWidth_ok .int (table_entry width sound.1).2 sound.1 sound.2
    refine ⟨_,?_,printed_hex rfl rfl⟩
    exact congrArg (Except.map _) value

theorem sized_crash (unsound : ¬ (Piece.sized width kind).Sound ctx.asserts arg) :
    ∃ fault, Crash fault ∧ sized ctx seq width kind.letter arg before = .error fault := by
  have neg (failed : ¬ (width ≠ 0 ∧ (ctx.asserts → 0 ≤ arg.int.toInt))) :
      width = 0 ∨ ctx.asserts ∧ arg.int.toInt < 0 := by
    rcases not_and_or.mp failed with zero | below
    · exact .inl (not_not.mp zero)
    · obtain ⟨asserted,less⟩ := Classical.not_imp.mp below
      exact .inr ⟨asserted,Int.not_le.mp less⟩
  cases kind with
  | sequence =>
    obtain ⟨fault,crash,failed⟩ :=
      withWidth_crash decWidthTable .uint32 seq.toNat rfl (.inl (not_not.mp unsound))
    exact ⟨fault,crash,congrArg (Except.map _) failed⟩
  | integer =>
    obtain ⟨fault,crash,failed⟩ := withWidth_crash decWidthTable .int _ rfl (neg unsound)
    exact ⟨fault,crash,congrArg (Except.map _) failed⟩
  | hexadecimal =>
    obtain ⟨fault,crash,failed⟩ := withWidth_crash hexWidthTable .int _ rfl (neg unsound)
    exact ⟨fault,crash,congrArg (Except.map _) failed⟩

theorem render_piece (settled : Settled before) (next : Nat)
    (sound : piece.Sound ctx.asserts (ctx.args next)) :
    ∃ after, Printed ctx seq (ctx.args next) piece before after ∧
      ∀ rest, render ctx seq (piece.spelling ++ rest) next before =
        render ctx seq rest (next+piece.takes) after := by
  cases piece with
  | literal byte plain =>
    exact ⟨_,printed_put settled rfl rfl,fun rest => render_literal ctx seq plain rest next before⟩
  | directive kind =>
    obtain ⟨after,printed,spec⟩ := unsized_kind settled
    refine ⟨after,spec,fun rest => ?_⟩
    have step := render_unsized ctx seq kind.letter_plain.1 kind.letter_plain.2 rest next before
    rw [printed] at step
    exact step
  | sized width kind =>
    obtain ⟨after,printed,spec⟩ := sized_kind sound
    refine ⟨after,spec,fun rest => ?_⟩
    obtain ⟨nonzero,digit,value⟩ := digitByte_fin width
    have step := render_sized ctx seq nonzero digit kind.letter rest next before
    rw [value,printed] at step
    exact step

variable (next : Nat)

theorem render_crash (unsound : ¬ piece.Sound ctx.asserts (ctx.args next)) :
    ∃ fault, Crash fault ∧ ∀ rest, render ctx seq (piece.spelling ++ rest) next before = .error fault := by
  cases piece with
  | literal byte plain | directive kind => exact absurd trivial unsound
  | sized width kind =>
    obtain ⟨fault,crash,failed⟩ := sized_crash unsound
    refine ⟨fault,crash,fun rest => ?_⟩
    obtain ⟨nonzero,digit,value⟩ := digitByte_fin width
    have step := render_sized ctx seq nonzero digit kind.letter rest next before
    rw [value,failed] at step
    exact step

variable (seq) in
theorem render_pieces (settled : Settled before) (pieces : List Piece) (next : Nat)
    (sound : ∀ item ∈ assigned ctx.args next pieces, item.1.Sound ctx.asserts item.2) :
    ∃ after later, after.text = before.text ++ shownAll ctx seq before.base (assigned ctx.args next pieces) ∧
      ∀ rest, render ctx seq (spelled pieces ++ rest) next before = render ctx seq rest later after := by
  induction pieces generalizing next before with
  | nil => exact ⟨before,next,(List.append_nil _).symm,fun rest => rfl⟩
  | cons piece pieces ih =>
    obtain ⟨middle,printed,step⟩ := render_piece settled next (sound (piece,ctx.args next) List.mem_cons_self)
    obtain ⟨after,later,text,steps⟩ := ih printed.settled (next+piece.takes)
      fun item mem => sound item (List.mem_cons_of_mem _ mem)
    refine ⟨after,later,?_,fun rest => ?_⟩
    · rw [text,printed.text,printed.base,List.append_assoc]
      rfl
    · rw [spelled_cons,List.append_assoc,step,steps]

variable (seq) in
theorem render_unsound (settled : Settled before) (pieces : List Piece) (next : Nat)
    {item : Piece × Argument} (mem : item ∈ assigned ctx.args next pieces)
    (unsound : ¬ item.1.Sound ctx.asserts item.2) :
    ∃ fault, Crash fault ∧ ∀ rest, render ctx seq (spelled pieces ++ rest) next before = .error fault := by
  induction pieces generalizing next before with
  | nil => cases mem
  | cons piece pieces ih =>
    by_cases sound : piece.Sound ctx.asserts (ctx.args next)
    · obtain ⟨middle,printed,step⟩ := render_piece settled next sound
      rcases List.mem_cons.mp mem with rfl | later
      · exact absurd sound unsound
      · obtain ⟨fault,crash,failed⟩ := ih printed.settled (next+piece.takes) later
        refine ⟨fault,crash,fun rest => ?_⟩
        rw [spelled_cons,List.append_assoc,step,failed]
    · obtain ⟨fault,crash,failed⟩ := render_crash next sound
      refine ⟨fault,crash,fun rest => ?_⟩
      rw [spelled_cons,List.append_assoc,failed]

end

section
variable (context : Context) (seq : UInt32)

theorem settled_empty : Settled .empty := ⟨rfl,fun bad => Base.noConfusion bad⟩

def SoundAll (context : Context) (pieces : List Piece) : Prop :=
  ∀ item ∈ assigned context.args 0 pieces, item.1.Sound context.asserts item.2

variable {format : Format} {pieces : List Piece}

theorem transactionId_whole (read : format.bytes = spelled pieces) (sound : SoundAll context pieces) :
    transactionId context seq format = .ok (shownAll context seq .dec (assigned context.args 0 pieces)) := by
  obtain ⟨after,later,text,steps⟩ := render_pieces seq settled_empty pieces 0 sound
  unfold transactionId
  rw [read,steps]
  exact congrArg Except.ok text

variable {rest : List UInt8}

theorem transactionId_refused (read : format.bytes = spelled pieces ++ rest) (refused : Refused rest)
    (sound : SoundAll context pieces) :
    transactionId context seq format = .error invalidFormat := by
  obtain ⟨after,later,text,steps⟩ := render_pieces seq settled_empty pieces 0 sound
  unfold transactionId
  rw [read,List.append_assoc,steps,refused]
  rfl

theorem transactionId_unsound (read : format.bytes = spelled pieces ++ rest)
    (unsound : ¬ SoundAll context pieces) :
    ∃ fault, Crash fault ∧ transactionId context seq format = .error fault := by
  obtain ⟨item,failed⟩ := not_forall.mp unsound
  obtain ⟨mem,unsound⟩ := Classical.not_imp.mp failed
  obtain ⟨fault,crash,stopped⟩ := render_unsound seq settled_empty pieces 0 mem unsound
  refine ⟨fault,crash,?_⟩
  unfold transactionId
  rw [read,List.append_assoc,stopped]
  rfl

theorem transactionId_inside : transactionId context seq format ≠ .error .pastEnd := by
  obtain ⟨pieces,rest,read,ended⟩ := format_cases format.bytes format.noNul
  intro failed
  by_cases sound : SoundAll context pieces
  · rcases ended with rfl | refused
    · rw [transactionId_whole context seq (read.trans (List.append_nil _)) sound] at failed
      cases failed
    · rw [transactionId_refused context seq read refused sound] at failed
      cases failed
  · obtain ⟨fault,crash,stopped⟩ := transactionId_unsound context seq read sound
    rw [stopped] at failed
    rcases crash with rfl | rfl <;> cases failed

variable (base : Base) (piece : Piece) (arg : Argument)

theorem length_shown_le : (piece.shown context seq base arg).length ≤
      (piece.rendering context.now context.label seq arg).length := by
  unfold Piece.shown
  split
  · cases base with
    | dec => exact le_rfl
    | hex => exact length_hexadecimal_le true seq.toNat
  · exact le_rfl

theorem shown_eq_iff :
    piece.shown context seq base arg = piece.rendering context.now context.label seq arg ↔
      (piece = .directive .sequence → base = .hex → seq.toNat < 10) := by
  unfold Piece.shown
  split
  · cases base with
    | dec => exact iff_of_true rfl fun _ bad => Base.noConfusion bad
    | hex =>
      have same := hexadecimal_eq_decimal_iff true seq.toNat
      exact same.trans ⟨fun small _ _ => small,fun small => small rfl rfl⟩
  · rename_i other
    exact iff_of_true rfl fun same => absurd same other

def renderings (items : List (Piece × Argument)) : List UInt8 :=
  items.flatMap fun item => item.1.rendering context.now context.label seq item.2

variable {item : Piece × Argument} {items : List (Piece × Argument)}

theorem renderings_cons : renderings context seq (item::items) =
      item.1.rendering context.now context.label seq item.2 ++ renderings context seq items :=
  List.flatMap_cons

theorem length_shownAll_le (items : List (Piece × Argument)) :
    (shownAll context seq base items).length ≤ (renderings context seq items).length := by
  induction items generalizing base with
  | nil => exact le_rfl
  | cons item items ih =>
    have here := length_shown_le context seq base item.1 item.2
    have later := ih (item.1.base.getD base)
    rw [shownAll,renderings_cons,List.length_append,List.length_append]
    omega

theorem shownAll_cons_iff : shownAll context seq base (item::items) = renderings context seq (item::items) ↔
      (item.1 = .directive .sequence → base = .hex → seq.toNat < 10) ∧
        shownAll context seq (item.1.base.getD base) items = renderings context seq items := by
  have here := length_shown_le context seq base item.1 item.2
  have later := length_shownAll_le context seq (item.1.base.getD base) items
  rw [← shown_eq_iff context seq base item.1 item.2,renderings_cons,shownAll]
  constructor
  · intro same
    have lengths := congrArg List.length same
    rw [List.length_append,List.length_append] at lengths
    exact List.append_inj same (by omega)
  · rintro ⟨first,rest⟩
    rw [first,rest]

theorem shownAll_eq_iff {next : Nat} : shownAll context seq base (assigned context.args next pieces) =
        renderings context seq (assigned context.args next pieces) ↔
      ∀ before after, pieces = before ++ .directive .sequence :: after → baseAfter base before = .hex →
        seq.toNat < 10 := by
  induction pieces generalizing base next with
  | nil =>
    refine iff_of_true rfl ?_
    intro before after split
    simp at split
  | cons piece pieces ih =>
    rw [assigned,shownAll_cons_iff,ih]
    constructor
    · rintro ⟨here,later⟩ before after split hex
      cases before with
      | nil => exact here (List.cons.inj split).1 hex
      | cons first before =>
        obtain ⟨rfl,same⟩ := List.cons.inj split
        exact later before after same hex
    · intro every
      refine ⟨fun here hex => ?_,fun before after split hex => ?_⟩
      · exact every [] pieces (congrArg (· :: pieces) here) hex
      · exact every (piece::before) after (congrArg (piece :: ·) split) hex

end

section
variable {ctx : Context} {format : Format} {seq : UInt32} {fault : Fault} {num : Nat}
  {idVec : List (List UInt8)}

theorem transactionIds_failed (failed : transactionId ctx seq format = .error fault) (pos : num ≠ 0) :
    transactionIds ctx format num seq idVec = (idVec,some fault) := by
  obtain ⟨left,rfl⟩ := Nat.exists_eq_succ_of_ne_zero pos
  rw [transactionIds,failed]

theorem transactionIds_eq {ids : UInt32 → List UInt8}
    (printed : ∀ seq, transactionId ctx seq format = .ok (ids seq))
    {seq : UInt32} : transactionIds ctx format num seq idVec =
      (idVec ++ (List.range num).map fun index => ids (seq + UInt32.ofNat index),none) := by
  induction num generalizing seq idVec with
  | zero => rw [transactionIds,List.range_zero,List.map_nil,List.append_nil]
  | succ num ih =>
    have next (index : Nat) : seq + 1 + UInt32.ofNat index = seq + UInt32.ofNat (index+1) := by
      rw [UInt32.ofNat_add,UInt32.add_comm (UInt32.ofNat index),← UInt32.add_assoc]
      rfl
    have first : seq + UInt32.ofNat 0 = seq := UInt32.add_zero seq
    rw [transactionIds,printed]
    dsimp only
    rw [ih,List.range_succ_eq_map,List.map_cons,List.map_map,first]
    simp only [next,Function.comp_def,List.append_assoc,List.cons_append,List.nil_append]

theorem sound_of_not_crash (spared : ∀ fault, Crash fault → transactionId ctx seq format ≠ .error fault)
    (pieces : List Piece) (rest : List UInt8) (read : format.bytes = spelled pieces ++ rest) :
    SoundAll ctx pieces := by
  by_contra unsound
  obtain ⟨fault,crash,failed⟩ := transactionId_unsound ctx seq read unsound
  exact spared fault crash failed

variable {pieces : List Piece}

section
variable (read : format.bytes = spelled pieces)
include read

theorem sound_of_whole (sound : SoundAll ctx pieces) :
    ∀ others rest, format.bytes = spelled others ++ rest → SoundAll ctx others := by
  have spared : ∀ fault, Crash fault → transactionId ctx 0 format ≠ .error fault := by
    intro fault _ failed
    rw [transactionId_whole ctx 0 read sound] at failed
    cases failed
  exact sound_of_not_crash spared

theorem independent_iff : Independent ctx seq format (shownAll ctx seq .dec (assigned ctx.args 0 pieces)) ↔
      ∀ before after, format.bytes = spelled (before ++ .directive .sequence :: after) →
        baseAfter .dec before = .hex → seq.toNat < 10 := by
  have same : Independent ctx seq format (shownAll ctx seq .dec (assigned ctx.args 0 pieces)) ↔
      shownAll ctx seq .dec (assigned ctx.args 0 pieces) =
        renderings ctx seq (assigned ctx.args 0 pieces) := by
    constructor
    · rintro ⟨others,spelt,text⟩
      rw [← spelled_injective (read.symm.trans spelt)] at text
      exact text
    · intro text
      exact ⟨pieces,read,text⟩
  rw [same,shownAll_eq_iff]
  constructor
  · intro every before after spelt
    exact every before after (spelled_injective (read.symm.trans spelt))
  · intro every before after split
    exact every before after (by rw [read,split])

variable {idVec : List (List UInt8)}

theorem rendered_whole_iff (sound : SoundAll ctx pieces) {seq : UInt32} :
    Rendered ctx seq format num idVec (transactionIds ctx format num seq idVec) ↔
      ∀ index < num, Independent ctx (seq + UInt32.ofNat index) format
        (shownAll ctx (seq + UInt32.ofNat index) .dec (assigned ctx.args 0 pieces)) := by
  rw [transactionIds_eq fun seq => transactionId_whole ctx seq read sound]
  constructor
  · rintro (bad | ⟨_,ids,same,_,every⟩) index inside
    · cases bad
    · rw [← List.append_cancel_left same] at every
      refine every index _ ?_
      rw [List.getElem?_map,List.getElem?_range inside]
      rfl
  · intro every
    refine .inr ⟨rfl,_,rfl,by rw [List.length_map,List.length_range],?_⟩
    intro index id found
    obtain ⟨pos,listed,rfl⟩ := Option.map_eq_some_iff.mp (List.getElem?_map.symm.trans found)
    obtain ⟨inside,rfl⟩ := List.getElem?_eq_some_iff.mp listed
    rw [List.getElem_range]
    exact every index (by simpa using inside)

theorem rendered_of_whole (sound : SoundAll ctx pieces) (pos : num ≠ 0) :
    Rendered ctx seq format num idVec (transactionIds ctx format num seq idVec) ↔
      num = 0 ∨ Harmless ctx.asserts ctx.args num seq format := by
  rw [rendered_whole_iff read sound]
  simp only [independent_iff read]
  constructor
  · intro every
    exact .inr ⟨sound_of_whole read sound,
      fun before after spelt hex index inside => every index inside before after spelt hex⟩
  · rintro (none | harmless) index inside before after spelt hex
    · exact absurd none pos
    · exact harmless.based before after spelt hex index inside

end

theorem harmless_of_refused (failed : transactionId ctx seq format = .error invalidFormat) :
    Harmless ctx.asserts ctx.args num seq format := by
  have spared : ∀ fault, Crash fault → transactionId ctx seq format ≠ .error fault := by
    rintro fault (rfl | rfl) crashed <;> rw [failed] at crashed <;> cases crashed
  refine ⟨sound_of_not_crash spared,?_⟩
  intro before after spelt
  have sound := sound_of_not_crash spared _ [] (spelt.trans (List.append_nil _).symm)
  rw [transactionId_whole ctx seq spelt sound] at failed
  cases failed

theorem not_rendered_of_crash (crash : Crash fault)
    (failed : transactionId ctx seq format = .error fault) (pos : num ≠ 0) :
    ¬ Rendered ctx seq format num idVec (transactionIds ctx format num seq idVec) := by
  rw [transactionIds_failed failed pos]
  rintro (thrown | ⟨finished,_⟩)
  · rcases crash with rfl | rfl <;> cases thrown
  · cases finished

variable (num : Nat)

theorem rendered_iff : Rendered ctx seq format num idVec (transactionIds ctx format num seq idVec) ↔
      num = 0 ∨ Harmless ctx.asserts ctx.args num seq format := by
  by_cases zero : num = 0
  · subst zero
    refine iff_of_true (.inr ⟨rfl,[],(List.append_nil _).symm,rfl,?_⟩) (.inl rfl)
    intro index id found
    simp at found
  obtain ⟨pieces,rest,read,ended⟩ := format_cases format.bytes format.noNul
  by_cases sound : SoundAll ctx pieces
  · rcases ended with rfl | refused
    · rw [List.append_nil] at read
      exact rendered_of_whole read sound zero
    · have failed := transactionId_refused ctx seq read refused sound
      rw [transactionIds_failed failed zero]
      exact iff_of_true (.inl rfl) (.inr (harmless_of_refused failed))
  · obtain ⟨fault,crash,failed⟩ := transactionId_unsound ctx seq read sound
    refine iff_of_false (not_rendered_of_crash crash failed zero) ?_
    rintro (none | harmless)
    · exact zero none
    · exact sound (harmless.sound pieces rest read)

end

section
variable (asserts : Bool) (attempts : Nat → Attempt) (random : UInt32) (client : CUniqId) (now : LocalTime)
  {label : UInt8} {seq : UInt32}

theorem getTransactionIds_eq {num : UInt16}
    (given : (getLabelAndSeq attempts random client num).result = .ok (label,seq)) (idVec : List (List UInt8))
    (format : Format) (args : Nat → Argument) :
    (getTransactionIds asserts attempts random client now num idVec format args).2 =
      transactionIds ⟨asserts,now,label,args⟩ format num.toNat seq idVec := by
  unfold getTransactionIds
  dsimp only
  rw [given]

theorem getTransactionId_eq (given : (getLabelAndSeq attempts random client 1).result = .ok (label,seq))
    {format : Format} {args : Nat → Argument} :
    (getTransactionId asserts attempts random client now format args).2 =
      transactionId ⟨asserts,now,label,args⟩ seq format := by
  have one : (1 : UInt16).toNat = 0 + 1 := rfl
  unfold getTransactionId getTransactionIds
  dsimp only
  rw [given]
  dsimp only
  rw [one,transactionIds]
  cases transactionId ⟨asserts,now,label,args⟩ seq format <;> rfl

/-- The ids are made of independent renderings exactly for the harmless formats. -/
theorem transaction_ids_rendered_iff {num : UInt16} {label : UInt8} {seq : UInt32}
    (given : (getLabelAndSeq attempts random client num).result = .ok (label,seq)) (idVec : List (List UInt8))
    (format : Format) (args : Nat → Argument) : Rendered ⟨asserts,now,label,args⟩ seq format num.toNat idVec
        (getTransactionIds asserts attempts random client now num idVec format args).2 ↔
      num = 0 ∨ Harmless asserts args num.toNat seq format := by
  have zero : num = 0 ↔ num.toNat = 0 := UInt16.toNat_inj.symm
  rw [getTransactionIds_eq asserts attempts random client now given,zero]
  exact rendered_iff num.toNat

end

variable {num : Nat} {seq : UInt32}

theorem harmless_of_pieces {asserts : Bool} {args : Nat → Argument} {format : Format}
    {pieces : List Piece} (read : format.bytes = spelled pieces)
    (sound : ∀ item ∈ assigned args 0 pieces, item.1.Sound asserts item.2)
    (based : ∀ before after, pieces = before ++ .directive .sequence :: after → baseAfter .dec before = .hex →
      ∀ index < num, (seq + UInt32.ofNat index).toNat < 10) : Harmless asserts args num seq format := by
  have beginnings (ctx : Context) (sound : SoundAll ctx pieces) := sound_of_whole read sound
  refine ⟨beginnings ⟨asserts,⟨⟨0,0,1,0⟩,0⟩,0,args⟩ sound,?_⟩
  intro before after spelt
  exact based before after (spelled_injective (read.symm.trans spelt))

def answering (current : UInt32) (num : UInt16) (seq : UInt32) (_retry : Nat) : Attempt where
  agent := ⟨0,6200⟩
  sent := .ok 32
  received := .ok ⟨32,⟨0,6200⟩,response responseLabelAndSeq (labelAndSeqRequest current num) 7 seq 0⟩

theorem getLabelAndSeq_answering (random : UInt32) (client : CUniqId) (num : UInt16) (seq : UInt32) :
    (getLabelAndSeq (answering (getEcho random client.echo) num seq) random client num).result =
      .ok (7,seq) := by
  have accepted (retry : Nat) : respond (answering (getEcho random client.echo) num seq)
      (acceptLabelAndSeq (getEcho random client.echo)) retry = .ok (7,seq) := by
    have brought : (answering (getEcho random client.echo) num seq retry).message =
        .ok (response responseLabelAndSeq (labelAndSeqRequest (getEcho random client.echo) num) 7 seq 0) :=
      message_received rfl rfl
    have valid : ValidLabel (7 : UInt32).toNat := by decide
    unfold respond
    exact acceptLabelAndSeq_response valid (labelAndSeqRequest (getEcho random client.echo) num) seq 0
  unfold getLabelAndSeq call
  dsimp only
  rw [exchange_good (accepted _)]
  rfl

def sizedFormat : Format := ⟨['%'.toUInt8,'L'.toUInt8,'%'.toUInt8,'4'.toUInt8,'S'.toUInt8],by decide⟩

def plainFormat : Format := ⟨['%'.toUInt8,'L'.toUInt8,'%'.toUInt8,'S'.toUInt8],by decide⟩

def zeroWidth : Format := ⟨['%'.toUInt8,'0'.toUInt8,'S'.toUInt8],by decide⟩

def noArgument (_index : Nat) : Argument := ⟨0,[]⟩

def newYear : LocalTime := ⟨⟨117,0,1,0⟩,0⟩

theorem transaction_ids_rendered_sized :
    (getLabelAndSeq (answering 1357 2 41) 0 (CUniqId.make 1357 0) 2).result = .ok (7,41) ∧
      Harmless true noArgument 2 41 sizedFormat ∧ Rendered ⟨true,newYear,7,noArgument⟩ 41 sizedFormat 2 []
        (getTransactionIds true (answering 1357 2 41) 0 (CUniqId.make 1357 0) newYear 2 []
          sizedFormat noArgument).2 := by
  have given :=
    getLabelAndSeq_answering 0 (CUniqId.make 1357 0) 2 41
  have harmless : Harmless true noArgument 2 41 sizedFormat := by
    have read : sizedFormat.bytes = spelled [.directive .label,.sized 4 .sequence] := rfl
    refine harmless_of_pieces read ?_ ?_
    · intro item member
      rcases List.mem_cons.mp member with rfl | later
      · trivial
      · rw [List.mem_singleton.mp later]
        exact (by decide : (4 : Fin 10) ≠ 0)
    · intro before after split
      have listed : Piece.directive .sequence ∈ [.directive .label,Piece.sized 4 .sequence] := by
        rw [split]
        exact List.mem_append_right before List.mem_cons_self
      exact absurd listed (by decide)
  have rendered := (transaction_ids_rendered_iff true (answering 1357 2 41) 0 (CUniqId.make 1357 0)
    newYear given []
    sizedFormat noArgument).mpr (.inr harmless)
  exact ⟨given,harmless,rendered⟩

theorem sequence_in_hexadecimal :
    (getTransactionIds true (answering 1357 1 10) 0 (CUniqId.make 1357 0) newYear 1 [] plainFormat
      noArgument).2 =
        ([['0'.toUInt8,'7'.toUInt8,'A'.toUInt8]],none) ∧
          ¬ Rendered ⟨true,newYear,7,noArgument⟩ 10 plainFormat 1 []
        (getTransactionIds true (answering 1357 1 10) 0 (CUniqId.make 1357 0) newYear 1 []
          plainFormat noArgument).2 ∧
      (getTransactionIds true (answering 1357 1 10) 0 (CUniqId.make 1357 0) newYear 1 [] zeroWidth
        noArgument).2 =
        ([],some .assertion) ∧
      (getTransactionIds false (answering 1357 1 10) 0 (CUniqId.make 1357 0) newYear 1 [] zeroWidth
        noArgument).2 =
        ([],some .division) := by
  have given : (getLabelAndSeq (answering 1357 1 10) 0 (CUniqId.make 1357 0) 1).result = .ok (7,10) :=
    getLabelAndSeq_answering 0 (CUniqId.make 1357 0) 1 10
  rw [getTransactionIds_eq true _ _ _ newYear given,getTransactionIds_eq true _ _ _ newYear given,
    getTransactionIds_eq false _ _ _ newYear given]
  refine ⟨by decide,?_,by decide,by decide⟩
  intro rendered
  rcases (rendered_iff 1).mp rendered with impossible | harmless
  · cases impossible
  · have small := harmless.based [.directive .label] [] rfl rfl 0 Nat.one_pos
    exact absurd small (by decide)

variable {width : Fin 10}

theorem sized_sequence_noNul : 0 ∉ (Piece.sized width .sequence).spelling := by
  intro mem
  simp only [Piece.spelling,List.mem_cons] at mem
  rcases mem with percent | digit | letter
  · exact absurd percent (by decide)
  · exact (digitByte_fin width).1 digit.symm
  · exact absurd letter (by decide)

def sequenceFormat (width : Fin 10) : Format := ⟨(Piece.sized width .sequence).spelling,sized_sequence_noNul⟩

/-- As many ids as are asked for, each of the width and no two of them the same. -/
structure Distinct (num width : Nat) (outcome : List (List UInt8) × Option Fault) : Prop where
  finished : outcome.2 = none
  count : outcome.1.length = num
  different : outcome.1.Pairwise (· ≠ ·)
  characters : ∀ id ∈ outcome.1, id.length = width

theorem decWidthTable_eq : ∀ width : Fin 10, decWidthTable.getD width 0 = 10^width.val - 1 := by
  decide

theorem limited_sequence :
    limited decWidthTable .uint32 seq.toNat width = (seq.toNat % (10^width.val - 1) : Nat) := by
  have bound := seq.toNat_lt
  have wide : ((seq.toNat : Int) % 18446744073709551616).toNat = seq.toNat := by omega
  have small : seq.toNat % (10^width.val - 1) < 4294967296 := lt_of_le_of_lt (Nat.mod_le _ _) bound
  unfold limited IntType.cast
  dsimp only
  rw [decWidthTable_eq,wide,Nat.mod_eq_of_lt small]

theorem transactionId_sequence {ctx : Context} (pos : width ≠ 0) :
    transactionId ctx seq (sequenceFormat width) =
      .ok (zeroPadded width (decimal (seq.toNat % (10^width.val - 1)))) := by
  have read : (sequenceFormat width).bytes = spelled [.sized width .sequence] := (List.append_nil _).symm
  have sound : SoundAll ctx [.sized width .sequence] := by
    intro item mem
    rw [List.mem_singleton.mp mem]
    exact pos
  have shown : shownAll ctx seq .dec (assigned ctx.args 0 [.sized width .sequence]) =
      zeroPadded width (signedDecimal (limited decWidthTable .uint32 seq.toNat width)) := List.append_nil _
  rw [transactionId_whole ctx seq read sound,shown,limited_sequence,signedDecimal_natCast]

variable {value : Nat} {width : Nat}

theorem length_zeroPadded (pos : 0 < width) (fits : value < 10^width) :
    (zeroPadded width (decimal value)).length = width :=
  length_padded pos fits

theorem ofDecimal_zeroPadded : ofDecimal (zeroPadded width (decimal value)) = value :=
  ofDecimal_padded width value

variable {modulus : Nat} {start : Nat}

theorem eq_of_mod_eq {left right : Nat} (order : left ≤ right) (near : right < left + modulus)
    (same : (start+left) % modulus = (start+right) % modulus) : left = right := by
  have zero := Nat.sub_mod_eq_zero_of_mod_eq same.symm
  have distance : start + right - (start+left) = right - left := by omega
  rw [Nat.mod_eq_of_lt (by omega)] at zero
  omega

theorem pairwise_remainders_iff (pos : 0 < modulus) (bounded : num ≤ modulus+1) :
    ((List.range num).map fun index =>
      zeroPadded width (decimal ((start+index) % modulus))).Pairwise (· ≠ ·) ↔
      num ≠ modulus+1 := by
  rw [List.pairwise_map]
  constructor
  · rintro ne rfl
    have ends := List.pairwise_iff_getElem.mp ne 0 modulus (by simp) (by simp) pos
    rw [List.getElem_range,List.getElem_range,Nat.add_mod_right] at ends
    exact ends rfl
  · intro fewer
    refine List.pairwise_lt_range.imp_of_mem ?_
    intro left right _ mem less same
    have values := congrArg ofDecimal same
    rw [ofDecimal_zeroPadded,ofDecimal_zeroPadded] at values
    have inside := List.mem_range.mp mem
    exact absurd (eq_of_mod_eq less.le (by omega) values) less.ne

section
variable (asserts : Bool) (attempts : Nat → Attempt) (random : UInt32) (client : CUniqId) (now : LocalTime)

/-- A width has room for one number less than it has texts. -/
theorem sequence_width_distinct_iff {num : UInt16} {label : UInt8} {seq : UInt32}
    (given : (getLabelAndSeq attempts random client num).result = .ok (label,seq)) (args : Nat → Argument)
    (width : Fin 10) (positive : width ≠ 0) (bounded : num.toNat ≤ 10^width.val)
    (inside : seq.toNat + num.toNat ≤ 2^32) : Distinct num.toNat width
        (getTransactionIds asserts attempts random client now num [] (sequenceFormat width) args).2 ↔
      num.toNat ≠ 10^width.val := by
  have above := Nat.pos_of_ne_zero fun zero => positive (Fin.ext zero)
  have ten := Nat.le_self_pow (Nat.ne_of_gt above) 10
  have texts : (getTransactionIds asserts attempts random client now num [] (sequenceFormat width) args).2 =
      ((List.range num.toNat).map fun index =>
        zeroPadded width (decimal ((seq.toNat+index) % (10^width.val - 1))),none) := by
    rw [getTransactionIds_eq asserts attempts random client now given,
      transactionIds_eq fun seq => transactionId_sequence positive,List.nil_append]
    refine Prod.ext (List.map_congr_left ?_) rfl
    intro index member
    have below := List.mem_range.mp member
    have value : (seq + UInt32.ofNat index).toNat = seq.toNat + index := by
      rw [UInt32.toNat_add,UInt32.toNat_ofNat']
      omega
    rw [value]
  have room : 10^width.val = 10^width.val - 1 + 1 := by omega
  rw [texts]
  constructor
  · intro distinct
    rw [room]
    exact (pairwise_remainders_iff (by omega) (by omega)).mp distinct.different
  · intro fewer
    rw [room] at fewer
    refine ⟨rfl,by rw [List.length_map,List.length_range],?_,?_⟩
    · exact (pairwise_remainders_iff (by omega) (by omega)).mpr fewer
    · intro id member
      obtain ⟨index,_,rfl⟩ := List.mem_map.mp member
      have remainder := Nat.mod_lt (seq.toNat+index) (by omega : 0 < 10^width.val - 1)
      exact length_zeroPadded above (by omega)

end

theorem sequence_width_two_digits :
    (getLabelAndSeq (answering 1357 99 95) 0 (CUniqId.make 1357 0) 99).result = .ok (7,95) ∧ Distinct 99 2
        (getTransactionIds true (answering 1357 99 95) 0 (CUniqId.make 1357 0) newYear 99 []
          (sequenceFormat 2)
          noArgument).2 := by
  have given :=
    getLabelAndSeq_answering 0 (CUniqId.make 1357 0) 99 95
  refine ⟨given,?_⟩
  exact (sequence_width_distinct_iff true (answering 1357 99 95) 0 (CUniqId.make 1357 0) newYear
    given noArgument 2
    (by decide) (by decide) (by decide)).mpr (by decide)

theorem sequence_width_repeats :
    (getTransactionIds true (answering 1357 10 0) 0 (CUniqId.make 1357 0) newYear 10 [] (sequenceFormat 1)
        noArgument).2 = ([[48],[49],[50],[51],[52],[53],[54],[55],[56],[48]],none) ∧ ¬ Distinct 10 1
        (getTransactionIds true (answering 1357 10 0) 0 (CUniqId.make 1357 0) newYear 10 [] (sequenceFormat 1)
          noArgument).2 := by
  have given : (getLabelAndSeq (answering 1357 10 0) 0 (CUniqId.make 1357 0) 10).result = .ok (7,0) :=
    getLabelAndSeq_answering 0 (CUniqId.make 1357 0) 10 0
  have texts : transactionIds ⟨true,newYear,7,noArgument⟩ (sequenceFormat 1) (10 : UInt16).toNat 0 [] =
      ([[48],[49],[50],[51],[52],[53],[54],[55],[56],[48]],none) := by
    decide
  rw [getTransactionIds_eq true _ _ _ newYear given]
  refine ⟨rfl,?_⟩
  intro distinct
  exact absurd distinct.different (by decide)

end Mooon.UniqId.TransactionId

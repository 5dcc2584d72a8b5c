import Mathlib.Data.List.Basic

/-! `CStreamWriter` and `CStreamReader`. Neither constructor initialises the offset; a stream has
the size of its buffer, and an access outside of it has no result. -/
namespace Mooon.DataStream
open List

/-- A value of an integer type, as the bytes of its object, or a block. -/
inductive Item where
  | value (bytes : List UInt8) (width : bytes.length ∈ [1,2,4,8])
  | block (bytes : List UInt8) (width : bytes.length < 4294967296)

namespace Item

def bytes : Item → List UInt8
  | .value bytes _ => bytes
  | .block bytes _ => bytes

def size (item : Item) : Nat := item.bytes.length

end Item

def reverseBytes (source : List UInt8) : List UInt8 := source.foldl (fun result byte => byte::result) []

def Item.ordered (reverse : Bool) (bytes : List UInt8) : Item → List UInt8
  | .value _ _ => if reverse then reverseBytes bytes else bytes
  | .block _ _ => bytes

structure Stream where
  buffer : List UInt8
  offset : Nat
  reverse : Bool

namespace Stream

/-- The test in front of every access; `sizeof` has 64 bits. -/
def refuses (stream : Stream) : Item → Bool
  | .value bytes _ => stream.buffer.length < stream.offset + bytes.length
  | .block bytes _ => stream.buffer.length < (stream.offset + bytes.length) % 4294967296

def ahead (stream : Stream) (item : Item) : List UInt8 := (stream.buffer.drop stream.offset).take item.size

/-- The buffer and the caller's bytes: the copy of a value goes to the begin of the buffer, that of
a block from the buffer to the caller's block. -/
def copied (stream : Stream) : Item → List UInt8 × List UInt8
  | .value bytes width => (Item.ordered stream.reverse bytes (.value bytes width) ++
    stream.buffer.drop bytes.length,bytes)
  | .block bytes width => (stream.buffer,stream.ahead (.block bytes width))

def write (stream : Stream) (item : Item) : Option (Stream × List UInt8 × Bool) :=
  if stream.refuses item then some (stream,item.bytes,false)
  else if stream.buffer.length < stream.offset + item.size then none
  else
    some ({stream with
      buffer := (stream.copied item).1
      offset := (stream.offset + item.size) % 4294967296},(stream.copied item).2,true)

def read (stream : Stream) (item : Item) : Option (Stream × Option (List UInt8)) :=
  if stream.refuses item then some (stream,none)
  else if stream.buffer.length < stream.offset + item.size then none
  else
    some ({ stream with offset := (stream.offset + item.size) % 4294967296 },
      some (item.ordered stream.reverse (stream.ahead item)))

def reads : Stream → List Item → Option (List (List UInt8))
  | _, [] => some []
  | stream, item::rest => do
    let (next,bytes) ← stream.read item
    let bytes ← bytes
    let later ← reads next rest
    return bytes::later

end Stream

def total (items : List Item) : Nat := (items.flatMap Item.bytes).length

/-- From here on every write is refused exactly when it does not fit behind what was written, and
then changes nothing, and in the end a reader gets what was written. -/
def Correct (size readerOffset : Nat) : Stream → List Item → List Item → Prop
  | stream, written, [] =>
    Stream.reads { stream with offset := readerOffset } written = some (written.map Item.bytes)
  | stream, written, item::rest =>
    ∃ next given answer, stream.write item = some (next,given,answer) ∧
      (answer = false ↔ size < total written + item.size) ∧
        (answer = false → next = stream ∧ given = item.bytes) ∧
      Correct size readerOffset next (if answer then written ++ [item] else written) rest

def Inverse (size : UInt32) (reverse : Bool) (writerOffset readerOffset : UInt32)
    (items : List Item) : Prop :=
  ∀ buffer : List UInt8, buffer.length = size.toNat →
    Correct size.toNat readerOffset.toNat ⟨buffer,writerOffset.toNat,reverse⟩ [] items

/-- What is stored where it is read: a value at the begin, and of the blocks only an empty one. -/
def Item.Placed (size reader used : Nat) : Item → Prop
  | .value _ _ => used = 0 ∧ reader = 0
  | .block bytes _ => bytes = [] ∧ reader + used ≤ size

def Item.Refused (size place : Nat) : Item → Prop
  | .value _ _ => True
  | .block bytes _ => size < (place + bytes.length) % 4294967296

def Sound (size writer reader : Nat) : Nat → List Item → Prop
  | _, [] => True
  | used, item::rest =>
    if used + item.size ≤ size then
      writer + used + item.size ≤ size ∧ item.Placed size reader used ∧
        Sound size writer reader (used + item.size) rest
    else item.Refused size (writer + used) ∧ Sound size writer reader used rest

section
variable {stream : Stream} {item : Item} {items written : List Item} {size readerOffset : Nat}

theorem reverseBytes_eq {source : List UInt8} : reverseBytes source = source.reverse :=
  foldl_flip_cons_eq_append'.trans (append_nil _)

variable {bytes : List UInt8}

theorem length_ordered {reverse : Bool} : (item.ordered reverse bytes).length = bytes.length := by
  cases item <;> simp only [Item.ordered]
  split_ifs <;> simp [reverseBytes_eq]

variable {reverse : Bool}

theorem ordered_eq_iff :
    item.ordered reverse bytes = item.bytes ↔ bytes = item.ordered reverse item.bytes := by
  cases item with
  | value own width =>
    dsimp only [Item.ordered]
    split_ifs
    · rw [reverseBytes_eq,reverseBytes_eq,reverse_eq_iff]
    · rfl
  | block own width => rfl

theorem not_refuses (stream : Stream) (item : Item) (small : stream.buffer.length < 4294967296)
    (fits : stream.offset + item.size ≤ stream.buffer.length) :
    stream.refuses item = false ∧ (stream.offset + item.size) % 4294967296 = stream.offset + item.size := by
  have whole : (stream.offset + item.size) % 4294967296 = stream.offset + item.size :=
    Nat.mod_eq_of_lt (by omega)
  refine ⟨?_,whole⟩
  cases item with
  | value bytes width => exact decide_eq_false (Nat.not_lt.mpr fits)
  | block bytes width => exact decide_eq_false (Nat.not_lt.mpr (Nat.le_trans (Nat.mod_le _ _) fits))

theorem refuses_iff (beyond : stream.buffer.length < stream.offset + item.size) :
    stream.refuses item = true ↔ item.Refused stream.buffer.length stream.offset := by
  cases item with
  | value bytes width => exact iff_of_true (decide_eq_true beyond) trivial
  | block bytes width => exact decide_eq_true_iff

def encoded (reverse : Bool) (items : List Item) : List UInt8 :=
  items.flatMap fun item => item.ordered reverse item.bytes

theorem total_cons : total (item::items) = item.size + total items := by
  rw [total,flatMap_cons,length_append]
  rfl

theorem total_append : total (written ++ [item]) = total written + item.size := by
  rw [total,flatMap_append,length_append,flatMap_singleton]
  rfl

theorem encoded_append :
    encoded reverse (written ++ [item]) = encoded reverse written ++ item.ordered reverse item.bytes := by
  rw [encoded,flatMap_append,flatMap_singleton]
  rfl

theorem reads_iff (small : stream.buffer.length < 4294967296) :
    stream.reads items = some (items.map Item.bytes) ↔
      items = [] ∨ stream.offset + total items ≤ stream.buffer.length ∧
      (stream.buffer.drop stream.offset).take (total items) = encoded stream.reverse items := by
  induction items generalizing stream with
  | nil => simp [Stream.reads]
  | cons item items ih =>
    obtain ⟨buf,offset,reverse⟩ := stream
    dsimp only at small ih ⊢
    by_cases fits : offset + item.size ≤ buf.length
    · obtain ⟨accepted,whole⟩ := not_refuses ⟨buf,offset,reverse⟩ item small fits
      have step : Stream.reads ⟨buf,offset,reverse⟩ (item::items) = some ((item::items).map Item.bytes) ↔
          item.ordered reverse ((buf.drop offset).take item.size) = item.bytes ∧
            Stream.reads ⟨buf,offset + item.size,reverse⟩ items = some (items.map Item.bytes) := by
        rw [Stream.reads,Stream.read,accepted,if_neg Bool.false_ne_true,if_neg (by dsimp only; omega),whole]
        simp only [Option.bind_eq_bind,Option.bind_some,Option.bind_eq_some_iff,Option.pure_def,
          Option.some.injEq,
          map_cons,cons.injEq]
        constructor
        · rintro ⟨later,found,first,rfl⟩
          exact ⟨first,found⟩
        · rintro ⟨first,found⟩
          exact ⟨_,found,first,rfl⟩
      have rest := (@ih ⟨buf,offset + item.size,reverse⟩ small).trans
        (or_iff_right_of_imp (by rintro rfl; exact ⟨fits,rfl⟩))
      rw [step,ordered_eq_iff,rest,total_cons,take_add,drop_drop,encoded,encoded,flatMap_cons]
      dsimp only
      constructor
      · rintro ⟨first,inside,later⟩
        exact .inr ⟨by omega,by rw [← first,later]⟩
      · rintro (none | ⟨inside,same⟩)
        · cases none
        · obtain ⟨first,later⟩ := append_inj same
            (by rw [length_ordered,length_take,length_drop]; exact Nat.min_eq_left (by omega))
          exact ⟨first,by omega,later⟩
    · refine iff_of_false ?_ ?_
      · rw [Stream.reads,Stream.read]
        split_ifs with refused beyond
        · simp
        · simp
        · exact absurd (Nat.lt_of_not_le fits) beyond
      · rintro (none | ⟨inside,-⟩)
        · cases none
        · rw [total_cons] at inside
          omega

theorem length_copied (fits : item.size ≤ stream.buffer.length) :
    (stream.copied item).1.length = stream.buffer.length := by
  cases item with
  | value bytes width =>
    rw [Stream.copied,length_append,length_ordered,length_drop]
    exact Nat.add_sub_cancel' fits
  | block bytes width => rfl

variable {writer : Nat} (length : stream.buffer.length = size) (used : stream.offset = writer + total written)
include length used

theorem correct_fits (small : size < 4294967296) (fits : total written + item.size ≤ size) :
    Correct size readerOffset stream written (item::items) ↔ writer + total written + item.size ≤ size ∧
      Correct size readerOffset
        ⟨(stream.copied item).1,writer + total (written ++ [item]),stream.reverse⟩
          (written ++ [item]) items := by
  by_cases behind : writer + total written + item.size ≤ size
  · obtain ⟨accepted,whole⟩ := not_refuses stream item (by omega) (by omega)
    rw [Correct,Stream.write,accepted,if_neg Bool.false_ne_true,if_neg (by omega),whole,used,
      total_append,← Nat.add_assoc]
    constructor
    · rintro ⟨_,_,_,same,-,-,correct⟩
      cases same
      exact ⟨behind,correct⟩
    · exact fun correct => ⟨_,_,_,rfl,iff_of_false Bool.noConfusion (by omega),Bool.noConfusion,correct.2⟩
  · refine iff_of_false ?_ fun correct => behind correct.1
    rintro ⟨next,given,answer,done,refused,-⟩
    rw [Stream.write,if_pos (show stream.buffer.length < _ by omega)] at done
    split_ifs at done
    cases done
    exact absurd (refused.mp rfl) (by omega)

theorem correct_refused (beyond : size < total written + item.size) :
    Correct size readerOffset stream written (item::items) ↔
      item.Refused size (writer + total written) ∧ Correct size readerOffset stream written items := by
  rw [← used,← length,← refuses_iff (by omega),Correct,Stream.write]
  constructor
  · rintro ⟨next,given,answer,done,refused,stays,correct⟩
    obtain rfl := refused.mpr (by omega)
    obtain ⟨rfl,-⟩ := stays rfl
    split_ifs at done with refuses outside
    · exact ⟨refuses,correct⟩
    · simp at done
  · rintro ⟨refuses,correct⟩
    rw [if_pos refuses]
    exact ⟨_,_,_,rfl,iff_of_true rfl (by omega),fun _ => ⟨rfl,rfl⟩,correct⟩

end

section
variable {size writer reader : Nat} (small : size < 4294967296) {written items : List Item} {reverse : Bool}
include small

theorem correct_of_sound {buf : List UInt8} (length : buf.length = size)
    (ready : written = [] ∨ reader + total written ≤ size)
    (held : (buf.drop reader).take (total written) = encoded reverse written)
    (sound : Sound size writer reader (total written) items) :
    Correct size reader ⟨buf,writer + total written,reverse⟩ written items := by
  induction items generalizing buf written with
  | nil =>
    subst length
    exact (reads_iff small).mpr (ready.imp_right (⟨·,held⟩))
  | cons item items ih =>
    rw [Sound] at sound
    split_ifs at sound with fits
    · obtain ⟨behind,placed,sound⟩ := sound
      rw [correct_fits length rfl small fits]
      rw [← total_append] at sound
      refine ⟨behind,ih ((length_copied (by dsimp only; omega)).trans length) (.inr ?_) ?_ sound⟩
      · rw [total_append]
        cases item with
        | value bytes width => rwa [placed.2,Nat.zero_add]
        | block bytes width => simpa [Item.size,Item.bytes,placed.1] using placed.2
      · rw [total_append,encoded_append,← held]
        cases item with
        | value bytes width =>
          rw [placed.1,placed.2,Nat.zero_add]
          exact take_left' length_ordered
        | block bytes width =>
          change (buf.drop reader).take (total written + bytes.length) =
            (buf.drop reader).take (total written) ++ bytes
          rw [placed.1,append_nil,length_nil,Nat.add_zero]
    · rw [correct_refused length rfl (Nat.lt_of_not_le fits)]
      exact ⟨sound.1,ih length ready held sound.2⟩

theorem sound_of_correct {buf : UInt8 → List UInt8} {touched : Nat}
    (length : ∀ byte, (buf byte).length = size)
    (below : touched ≤ total written) (same : ∀ byte, (buf byte).drop touched = replicate (size-touched) byte)
    (correct : ∀ byte, Correct size reader ⟨buf byte,writer + total written,reverse⟩ written items) :
    (written = [] ∨ reader + total written ≤ size) ∧
      (0 < total written → touched = total written ∧ reader = 0) ∧
      Sound size writer reader (total written) items := by
  induction items generalizing buf written touched with
  | nil =>
    have held byte : written = [] ∨ reader + total written ≤ size ∧
        ((buf byte).drop reader).take (total written) = encoded reverse written := by
      have read := (reads_iff (by rw [length]; exact small)).mp (correct byte)
      rwa [length] at read
    refine ⟨(held 0).imp_right And.left,fun pos => ?_,trivial⟩
    by_contra ne
    -- behind what was touched the reader gets whatever the buffer had
    have last (byte : UInt8) : (encoded reverse written)[total written-1]? = some byte := by
      rcases held byte with rfl | ⟨inside,held⟩
      · cases pos
      · rw [← held,getElem?_take_of_lt (by omega),getElem?_drop,
          ← Nat.add_sub_cancel' (show touched ≤ reader + (total written - 1) by omega),← getElem?_drop,same]
        exact getElem?_replicate_of_lt (by omega)
    exact absurd ((last 0).symm.trans (last 1)) (by decide)
  | cons item items ih =>
    rw [Sound]
    split_ifs with fits
    · have next byte := (correct_fits (length byte) rfl small fits).mp (correct byte)
      have length' byte : (Stream.copied ⟨buf byte,writer + total written,reverse⟩ item).1.length = size :=
        (length_copied (by rw [length]; omega)).trans (length byte)
      rw [← total_append]
      cases item with
      | value bytes width =>
        have low : touched ≤ max touched bytes.length := Nat.le_max_left ..
        have high : bytes.length ≤ max touched bytes.length := Nat.le_max_right ..
        have same' byte : (Stream.copied ⟨buf byte,writer + total written,reverse⟩
          (.value bytes width)).1.drop
            (max touched bytes.length) = replicate (size - max touched bytes.length) byte := by
          have later := congrArg (drop (max touched bytes.length - touched)) (same byte)
          rw [drop_drop,drop_replicate,Nat.sub_sub,Nat.add_sub_cancel' low] at later
          rw [Stream.copied,drop_append,drop_eq_nil_of_le (by rwa [length_ordered]),length_ordered,nil_append,
            drop_drop,← later]
          exact congrArg (drop · _) (Nat.add_sub_cancel' high)
        obtain ⟨ready,whole,sound⟩ :=
          ih length' (by rw [total_append,Item.size,Item.bytes]; omega) same' fun byte => (next byte).2
        rw [total_append,Item.size,Item.bytes] at whole
        have pos : 0 < bytes.length := by
          simp only [mem_cons,not_mem_nil,or_false] at width
          omega
        obtain ⟨equal,zero⟩ := whole (by omega)
        exact ⟨.inr (by omega),by omega,(next 0).1,⟨by omega,zero⟩,sound⟩
      | block bytes width =>
        obtain ⟨ready,whole,sound⟩ := ih length' (by rw [total_append]; omega) same fun byte => (next byte).2
        rw [total_append,Item.size,Item.bytes] at ready whole
        have empty : bytes.length = 0 := by omega
        have inside : reader + total written ≤ size := by simpa [empty] using ready
        exact ⟨.inr inside,by omega,(next 0).1,⟨length_eq_zero_iff.mp empty,inside⟩,sound⟩
    · have refused byte := (correct_refused (length byte) rfl (Nat.lt_of_not_le fits)).mp (correct byte)
      obtain ⟨ready,whole,sound⟩ := ih length below same fun byte => (refused byte).2
      exact ⟨ready,whole,(refused 0).1,sound⟩

end

theorem streams_inverse_iff (size : UInt32) (reverse : Bool) (writerOffset readerOffset : UInt32)
    (items : List Item) : Inverse size reverse writerOffset readerOffset items ↔
      Sound size.toNat writerOffset.toNat readerOffset.toNat 0 items := by
  constructor
  · intro inverse
    have correct (byte : UInt8) : Correct size.toNat readerOffset.toNat
        ⟨replicate size.toNat byte,writerOffset.toNat + total [],reverse⟩ [] items :=
          inverse _ length_replicate
    exact (sound_of_correct size.toNat_lt (fun _ => length_replicate) (Nat.le_refl 0) (fun _ => rfl)
      correct).2.2
  · exact fun sound buffer length => correct_of_sound size.toNat_lt length (.inl rfl) rfl sound

theorem streams_two_values : ¬ Inverse 2 false 0 0 [.value [1] (by decide),.value [2] (by decide)] := by
  intro inverse
  obtain ⟨_,_,_,first,-,-,correct⟩ := inverse [0,0] rfl
  cases first
  obtain ⟨_,_,_,second,-,-,correct⟩ := correct
  cases second
  have read : Stream.reads ⟨[2,0],0,false⟩ [.value [1] (by decide),.value [2] (by decide)] =
      some [[1],[2]] := correct
  exact absurd read (by decide)

end Mooon.DataStream

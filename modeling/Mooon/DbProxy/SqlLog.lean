import Mooon.Bytes

/-! Records of the SQL log files: a 4-byte length and that many bytes of a statement.
Reading follows `handle_file`, which neither checks for a short read of the length nor
of the statement: the missing bytes are zero. A negative length is the death of the
process (`std::string` throws, and nothing catches it). -/
namespace Mooon.DbProxy
open List Option

abbrev Bytes := List UInt8

def encode (sql : Bytes) : Bytes := bytesOf 4 sql.length ++ sql

def encodeAll (sqls : List Bytes) : Bytes := sqls.flatMap encode

inductive Read where
  | eof
  | died
  | record (sql rest : Bytes)
deriving DecidableEq

def readRecord (bytes : Bytes) : Read :=
  let head := bytes.take 4
  if head = [] then .eof
  else if 2^31 ≤ ofBytes head then .died
  else
    let body := (bytes.drop 4).take (ofBytes head)
    .record (body ++ List.replicate (ofBytes head - body.length) 0) (bytes.drop (4+ofBytes head))

def parseUpTo : Nat → Bytes → Option (List Bytes)
  | 0, bytes => if bytes = [] then some [] else none
  | rounds+1, bytes =>
    match readRecord bytes with
    | .eof => some []
    | .died => none
    | .record sql rest => (parseUpTo rounds rest).map (sql :: ·)

def parse (bytes : Bytes) : Option (List Bytes) := parseUpTo bytes.length bytes

variable (sql : Bytes)

@[simp] theorem length_encode : (encode sql).length = 4 + sql.length := by
  simp [encode]

@[simp] theorem encodeAll_nil : encodeAll [] = [] := rfl

@[simp] theorem encodeAll_cons (rest : List Bytes) : encodeAll (sql::rest) = encode sql ++ encodeAll rest :=
  flatMap_cons

@[simp] theorem encodeAll_append (first second : List Bytes) :
    encodeAll (first++second) = encodeAll first ++ encodeAll second := flatMap_append

variable (sqls : List Bytes)

theorem encode_ne_nil : encode sql ≠ [] := by
  intro empty
  have := congrArg length empty
  simp at this

theorem readRecord_encode (rest : Bytes) (fits : sql.length < 2^31) :
    readRecord (encode sql ++ rest) = .record sql rest := by
  have head : (encode sql ++ rest).take 4 = bytesOf 4 sql.length := by
    exact take_left' (length_bytesOf 4 _)
  have tail : (encode sql ++ rest).drop 4 = sql ++ rest := by
    exact drop_left' (length_bytesOf 4 _)
  have length : ofBytes (bytesOf 4 sql.length) = sql.length := ofBytes_bytesOf 4 _ (by omega)
  have some : bytesOf 4 sql.length ≠ [] := by
    intro empty
    have := congrArg List.length empty
    simp at this
  simp only [readRecord,head,length]
  rw [if_neg some,if_neg (by omega),tail]
  simp

theorem readRecord_length {bytes sql rest : Bytes} (read : readRecord bytes = .record sql rest) :
    rest.length < bytes.length ∧ bytes.length ≤ 4 + sql.length + rest.length := by
  unfold readRecord at read
  dsimp only at read
  split_ifs at read with empty neg
  cases read
  have some : bytes ≠ [] := by
    intro none
    exact empty (by rw [none]; rfl)
  have pos := length_pos_of_ne_nil some
  simp only [length_drop,length_append,length_replicate]
  omega

def boundary (log : List Bytes) (index : Nat) : Nat := (encodeAll (log.take index)).length

structure Record where
  start : Nat
  sql : Bytes
deriving DecidableEq

def Located (log : List Bytes) (record : Record) (index : Nat) : Prop :=
  log[index]? = some record.sql ∧ record.start = boundary log index

theorem Located.unique {log : List Bytes} {first second : Record} {index : Nat}
    (one : Located log first index) (two : Located log second index) : first = second := by
  obtain ⟨sqlOne,startOne⟩ := one
  obtain ⟨sqlTwo,startTwo⟩ := two
  have sql := Option.some.inj (sqlOne.symm.trans sqlTwo)
  have start := startOne.trans startTwo.symm
  cases second
  cases sql
  cases start
  rfl

variable (log : List Bytes) (index : Nat)

theorem drop_boundary : (encodeAll log).drop (boundary log index) = encodeAll (log.drop index) := by
  have split : encodeAll log = encodeAll (log.take index) ++ encodeAll (log.drop index) := by
    rw [← encodeAll_append,take_append_drop]
  rw [split]
  exact drop_left

theorem boundary_rest : boundary log index + (encodeAll (log.drop index)).length =
    (encodeAll log).length := by
  rw [boundary,← length_append,← encodeAll_append,take_append_drop]

theorem boundary_succ (sql : Bytes) (found : log[index]? = some sql) :
    boundary log (index+1) = boundary log index + (4 + sql.length) := by
  rw [boundary,take_add_one,found]
  simp [boundary]

theorem boundary_mono : Monotone (boundary log) := by
  intro first second order
  have split : log.take second = log.take first ++ (log.take second).drop first := by
    conv_lhs => rw [← take_append_drop first (log.take second)]
    rw [take_take,Nat.min_eq_left order]
  unfold boundary
  rw [split,encodeAll_append,length_append]
  exact Nat.le_add_right _ _

theorem readRecord_boundary (fits : ∀ sql ∈ log, sql.length < 2^31) (index : Nat) (sql : Bytes)
    (found : log[index]? = some sql) :
    readRecord ((encodeAll log).drop (boundary log index)) =
      .record sql (encodeAll (log.drop (index+1))) := by
  obtain ⟨inside,equal⟩ := List.getElem?_eq_some_iff.mp found
  rw [drop_boundary,drop_eq_getElem_cons inside,equal]
  exact readRecord_encode sql _ (fits sql (mem_of_getElem? found))

variable (rounds : Nat)

theorem parseUpTo_encodeAll (enough : sqls.length ≤ rounds)
    (fits : ∀ sql ∈ sqls, sql.length < 2^31) : parseUpTo rounds (encodeAll sqls) = some sqls := by
  induction sqls generalizing rounds with
  | nil => cases rounds <;> rfl
  | cons sql rest ih =>
    obtain ⟨short,fits⟩ := forall_mem_cons.mp fits
    cases rounds with
    | zero => simp at enough
    | succ rounds =>
      rw [length_cons] at enough
      rw [encodeAll_cons,parseUpTo,readRecord_encode sql _ short]
      dsimp only
      rw [ih rounds (by omega) fits]
      rfl

theorem length_le_encodeAll : sqls.length ≤ (encodeAll sqls).length := by
  induction sqls with
  | nil => simp
  | cons sql rest ih =>
    simp only [encodeAll_cons,length_append,length_cons,length_encode]
    omega

theorem parse_encodeAll (fits : ∀ sql ∈ sqls, sql.length < 2^31) : parse (encodeAll sqls) = some sqls :=
  parseUpTo_encodeAll sqls _ (length_le_encodeAll sqls) fits

theorem parseUpTo_length (bytes : Bytes) (sqls : List Bytes)
    (parsed : parseUpTo rounds bytes = some sqls) : bytes.length ≤ (encodeAll sqls).length := by
  induction rounds generalizing bytes sqls with
  | zero =>
    unfold parseUpTo at parsed
    split at parsed
    · rename_i empty
      simp [empty]
    · cases parsed
  | succ rounds ih =>
    unfold parseUpTo at parsed
    cases read : readRecord bytes with
    | eof =>
      have empty : bytes = [] := by
        unfold readRecord at read
        dsimp only at read
        split_ifs at read with none
        simpa using none
      simp [empty]
    | died =>
      rw [read] at parsed
      cases parsed
    | record sql rest =>
      rw [read] at parsed
      obtain ⟨later,done,rfl⟩ := Option.map_eq_some_iff.mp parsed
      have shorter := ih rest later done
      obtain ⟨_,frame⟩ := readRecord_length read
      simp only [encodeAll_cons,length_append,length_encode]
      omega

end Mooon.DbProxy

import Mooon.DbProxy.SqlLogger
import Mooon.DbProxy.StartUp

/-! The text of the names that `get_log_filepath` gives, and what `CDbProcess` does with it: the
order of the bytes, the test of the name, and the field of the progress record that it is copied to.
-/
namespace Mooon.DbProxy
open StartUp List Run Bool

def filenameText (name : Filename) : Bytes :=
  [115,113,108] ++ 46 :: (padded 13 (ofLex name).1 ++ 46 :: padded 6 (ofLex name).2)

theorem smaller_append (common first second : Bytes) :
    smaller (common ++ first) (common ++ second) = smaller first second := by
  induction common with
  | nil => rfl
  | cons byte rest ih => simp [smaller,ih]

theorem smaller_cons {byte : UInt8} {first second : Bytes} :
    smaller (byte::first) (byte::second) = smaller first second :=
  smaller_append [byte] first second

variable {first second : Bytes}

theorem smaller_of_smaller (same : first.length = second.length)
    (less : smaller first second = true) {firsts seconds : Bytes} :
    smaller (first ++ firsts) (second ++ seconds) = true := by
  induction first generalizing second with
  | nil =>
    cases second with
    | nil => cases less
    | cons byte rest => cases same
  | cons byte rest ih =>
    cases second with
    | nil => cases same
    | cons other others =>
      simp only [smaller,cons_append,or_eq_true,and_eq_true] at less ⊢
      rcases less with first | ⟨equal,later⟩
      · exact Or.inl first
      · exact Or.inr ⟨equal,ih (Nat.succ.inj same) later⟩

theorem smaller_digits (same : first.length = second.length)
    (digits : ∀ byte ∈ first, isDigit byte) (digits' : ∀ byte ∈ second, isDigit byte)
    (less : ofDecimal first < ofDecimal second) : smaller first second = true := by
  induction first generalizing second with
  | nil =>
    cases second with
    | nil => exact absurd less (Nat.lt_irrefl _)
    | cons byte rest => cases same
  | cons byte rest ih =>
    cases second with
    | nil => cases same
    | cons other others =>
      obtain ⟨low,later⟩ := forall_mem_cons.mp digits
      obtain ⟨high,laters⟩ := forall_mem_cons.mp digits'
      have length := Nat.succ.inj same
      have bounds' := (isDigit_iff other).mp high
      have small := ofDecimal_lt later
      have small' := ofDecimal_lt laters
      rw [ofDecimal_cons,ofDecimal_cons,length] at less
      simp only [smaller,or_eq_true,decide_eq_true_eq,and_eq_true]
      rcases Nat.lt_trichotomy byte.toNat other.toNat with before | equal | behind
      · exact Or.inl before
      · refine Or.inr ⟨UInt8.toNat_inj.mp equal,ih length later laters ?_⟩
        rw [equal] at less
        omega
      · have more : (other.toNat - 48 + 1) * 10^others.length ≤ (byte.toNat - 48) * 10^others.length :=
          Nat.mul_le_mul_right _ (by omega)
        rw [Nat.add_mul] at more
        omega

structure Formatted (name : Filename) : Prop where
  timestamp : (ofLex name).1 < 10^13
  suffix : (ofLex name).2 < 10^6

theorem smaller_filenameText {first second : Filename} (fits : Formatted first) (fits' : Formatted second)
    (less : first < second) : smaller (filenameText first) (filenameText second) = true := by
  have long := length_padded (by decide : 0 < 13) fits.timestamp
  have long' := length_padded (by decide : 0 < 13) fits'.timestamp
  have short := length_padded (by decide : 0 < 6) fits.suffix
  have short' := length_padded (by decide : 0 < 6) fits'.suffix
  unfold filenameText
  rw [smaller_append,smaller_cons]
  rcases Prod.Lex.lt_iff.mp less with earlier | ⟨equal,later⟩
  · apply smaller_of_smaller (long.trans long'.symm)
    apply smaller_digits (long.trans long'.symm)
    · exact fun _ mem => isDigit_of_mem_padded mem
    · exact fun _ mem => isDigit_of_mem_padded mem
    · rwa [ofDecimal_padded,ofDecimal_padded]
  · rw [equal,smaller_append]
    apply smaller_digits (short.trans short'.symm)
    · exact fun _ mem => isDigit_of_mem_padded mem
    · exact fun _ mem => isDigit_of_mem_padded mem
    · rwa [ofDecimal_padded,ofDecimal_padded]

theorem dot_not_mem_padded {width value : Nat} : 46 ∉ padded width value := by
  intro mem
  exact absurd (isDigit_of_mem_padded mem) (by decide)

theorem isSqlLogFilename_filenameText {name : Filename} (fits : Formatted name) :
    isSqlLogFilename (filenameText name) = true := by
  have digits : ∀ width value, (padded width value).all isDigit = true := by
    intro width value
    exact all_eq_true.mpr (fun _ mem => isDigit_of_mem_padded mem)
  unfold isSqlLogFilename filenameText
  rw [splitOn_append_cons_self_of_not_mem (by decide),
    splitOn_append_cons_self_of_not_mem dot_not_mem_padded,
    splitOn_eq_singleton dot_not_mem_padded]
  simp [length_padded (by decide : 0 < 13) fits.timestamp,
    length_padded (by decide : 0 < 6) fits.suffix,digits]

variable (logger : Logger) (times : List Nat)

theorem getLogFilepath_suffix : ∀ name ∈ outputs Logger.getLogFilepath logger times, (ofLex name).1 ∈ times ∧
      (ofLex name).2 ≤ (if (ofLex name).1 = logger.timestamp then logger.suffix else 0) +
        times.count (ofLex name).1 := by
  induction times generalizing logger with
  | nil => simp
  | cons now rest ih =>
    refine forall_mem_cons.mpr ⟨⟨mem_cons_self,?_⟩,?_⟩
    · change (if now = logger.timestamp then logger.suffix + 1 else 0) ≤
        (if now = logger.timestamp then logger.suffix else 0) + (now::rest).count now
      rw [count_cons_self]
      split
      · omega
      · omega
    · intro name mem
      obtain ⟨inside,bound⟩ := ih _ name mem
      refine ⟨mem_cons_of_mem _ inside,?_⟩
      change _ ≤ (if (ofLex name).1 =
        now then (if now = logger.timestamp then logger.suffix + 1 else 0) else 0) + _
        at bound
      by_cases same : (ofLex name).1 = now
      · rw [if_pos same,same] at bound
        rw [same,count_cons_self]
        by_cases again : now = logger.timestamp
        · rw [if_pos again] at bound ⊢
          omega
        · rw [if_neg again] at bound ⊢
          omega
      · rw [if_neg same] at bound
        rw [count_cons_of_ne (Ne.symm same)]
        omega

theorem getLogFilepath_forward (ordered : times.Pairwise (· ≤ ·))
    (later : ∀ now ∈ times, logger.timestamp ≤ now) :
    Run.Meets (fun logger now => logger.timestamp ≤ now) Logger.getLogFilepath logger times := by
  induction times generalizing logger with
  | nil => trivial
  | cons now rest ih =>
    obtain ⟨first,others⟩ := pairwise_cons.mp ordered
    exact ⟨later now mem_cons_self,ih _ others first⟩

theorem getLogFilepath_lt {logger : Logger} {now : Nat} (later : logger.timestamp ≤ now) :
    toLex (logger.timestamp,logger.suffix) < (logger.getLogFilepath now).2 := by
  change toLex (logger.timestamp,logger.suffix) <
    toLex (now,if now = logger.timestamp then logger.suffix + 1 else 0)
  rw [Prod.Lex.lt_iff]
  by_cases same : now = logger.timestamp
  · rw [if_pos same]
    exact Or.inr ⟨same.symm,Nat.lt_succ_self _⟩
  · exact Or.inl (Nat.lt_of_le_of_ne later (Ne.symm same))

theorem getLogFilepath_sorted
    (forward : Run.Meets (fun logger now => logger.timestamp ≤ now) Logger.getLogFilepath logger times) :
    (outputs Logger.getLogFilepath logger times).Pairwise (· < ·) := by
  apply outputs_pairwise (fun _ => True) (fun logger => (toLex (logger.timestamp,logger.suffix) : Filename))
    (fun low high name => low < name ∧ name = high) (· < ·) _ _ _ _ logger times trivial forward
  · exact fun _ _ _ _ => trivial
  · exact fun _ _ _ later => le_of_lt (getLogFilepath_lt later)
  · exact fun _ _ _ later => ⟨getLogFilepath_lt later,rfl⟩
  · rintro a b c d x y ⟨-,rfl⟩ reached ⟨above,-⟩
    exact lt_of_le_of_lt reached above

/-- The names of one logger are in the order in which they were given, for `std::sort` and for
`strcmp`; each passes the test, and is in the progress record as a whole, with its end. -/
theorem filenames_sorted (setting : StartUp.Setting) (times : List Nat) (ordered : times.Pairwise (· ≤ ·))
    (clock : ∀ now ∈ times, now < 10^13) (rate : ∀ now, times.count now < 10^6) :
    let names := (outputs Logger.getLogFilepath Logger.start times).map filenameText
    names.Pairwise (fun first second => smaller first second = true ∧ setting.strcmp first second < 0) ∧
      ∀ name ∈ names, isSqlLogFilename name = true ∧ name.length + 1 = 25 ∧
        ∀ memory offset, filenameAt (updateProgress setting memory name offset) = name := by
  have fits : ∀ name ∈ outputs Logger.getLogFilepath Logger.start times, Formatted name := by
    intro name member
    obtain ⟨inside,bound⟩ := getLogFilepath_suffix Logger.start times name member
    have few := rate (ofLex name).1
    have none : (if (ofLex name).1 = Logger.start.timestamp then Logger.start.suffix else 0) = 0 := ite_self 0
    exact ⟨clock _ inside,by omega⟩
  have forward := getLogFilepath_forward Logger.start times ordered (fun now _ => Nat.zero_le now)
  refine ⟨?_,?_⟩
  · rw [pairwise_map]
    refine (getLogFilepath_sorted Logger.start times forward).imp_of_mem ?_
    intro first second member member' less
    have before := smaller_filenameText (fits first member) (fits second member') less
    exact ⟨before,(setting.less _ _).mpr before⟩
  · intro name member
    obtain ⟨pair,inside,rfl⟩ := mem_map.mp member
    have valid := isSqlLogFilename_filenameText (fits pair inside)
    refine ⟨valid,by rw [isSqlLogFilename_length valid],?_⟩
    exact fun memory offset => filenameAt_updateProgress setting memory offset valid

theorem filenames_of_one_second :
    ((outputs Logger.getLogFilepath Logger.start [1496887700,1496887700]).map filenameText).Pairwise
      (fun first second => smaller first second = true ∧ byteSetting.strcmp first second < 0) := by
  apply (filenames_sorted byteSetting [1496887700,1496887700] (by simp) (by decide) _).1
  intro now
  exact Nat.lt_of_le_of_lt count_le_length (by decide)

end Mooon.DbProxy

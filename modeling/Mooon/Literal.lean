import Mathlib.Data.List.Basic

/-! Double-quoted string literals of SQL: the escaping of `mysql_real_escape_string`, and how a
literal is read. -/
namespace Mooon.Literal
open List Prod

def quote : Char := '\x22'

def escapeChar : Char → List Char
  | '\x00' => ['\\','0']
  | '\n' => ['\\','n']
  | '\r' => ['\\','r']
  | '\\' => ['\\','\\']
  | '\x27' => ['\\','\x27']
  | '\x22' => ['\\','\x22']
  | '\x1a' => ['\\','Z']
  | char => [char]

def escape (text : List Char) : List Char := text.flatMap escapeChar

def unescapeChar : Char → Char
  | '0' => '\x00'
  | 'b' => '\x08'
  | 'n' => '\n'
  | 'r' => '\r'
  | 't' => '\t'
  | 'Z' => '\x1a'
  | char => char

/-- The value of a literal from behind its opening quote, and what follows the closing one. A
doubled quote is a quote. -/
def read : List Char → Option (List Char × List Char)
  | [] => none
  | '\x22' :: '\x22' :: rest => (read rest).map (Prod.map (List.cons '\x22') id)
  | '\x22' :: rest => some ([],rest)
  | ['\\'] => none
  | '\\' :: char :: rest => (read rest).map (Prod.map (List.cons (unescapeChar char)) id)
  | char :: rest => (read rest).map (Prod.map (List.cons char) id)

variable {rest : List Char}

theorem read_quote (single : rest.head? ≠ some quote) : read (quote :: rest) = some ([],rest) := by
  cases rest with
  | nil => rfl
  | cons char rest =>
    rw [quote,read.eq_3]
    intro other next
    cases next
    exact single rfl

variable {char : Char}

theorem read_escapeChar : read (escapeChar char ++ rest) = (read rest).map (map (cons char) id) := by
  unfold escapeChar
  split
  case h_8 =>
    rw [singleton_append,read.eq_6]
    all_goals grind
  all_goals rfl

variable (text : List Char)

theorem read_escape (single : rest.head? ≠ some quote) :
    read (escape text ++ quote :: rest) = some (text,rest) := by
  induction text with
  | nil => exact read_quote single
  | cons char text ih =>
    rw [escape,flatMap_cons,append_assoc,read_escapeChar,← escape,ih]
    rfl

def wordChar (char : Char) : Bool := char.isAlphanum || char = '_' || char = '.'

def Word (text : List Char) : Prop := text ≠ [] ∧ ∀ char ∈ text, wordChar char = true

theorem escapeChar_word : (∀ next ∈ escapeChar char, wordChar next = true) ↔ wordChar char = true := by
  unfold escapeChar
  split
  case h_8 => simp
  all_goals exact iff_of_false (fun words => Bool.false_ne_true (words '\\' mem_cons_self)) Bool.false_ne_true

theorem escapeChar_ne_nil : escapeChar char ≠ [] := by
  unfold escapeChar
  split <;> simp

theorem escape_eq_nil : escape text = [] ↔ text = [] := by
  cases text with
  | nil => simp [escape]
  | cons char text => simp [escape,escapeChar_ne_nil]

theorem escape_word : Word (escape text) ↔ Word text := by
  unfold Word
  rw [Ne,escape_eq_nil]
  apply and_congr_right
  intro _
  constructor
  · intro words char mem
    apply escapeChar_word.mp
    intro next inside
    exact words next (mem_flatMap.mpr ⟨char,mem,inside⟩)
  · intro words next mem
    obtain ⟨char,there,inside⟩ := mem_flatMap.mp mem
    exact escapeChar_word.mpr (words char there) next inside

end Mooon.Literal

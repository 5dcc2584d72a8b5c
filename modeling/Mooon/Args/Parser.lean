import Mathlib.Data.List.TakeWhile
import Mooon.Table
import Mooon.Args.StringToInt

/-! `parse_arguments` and the container of the registered arguments, for the string arguments and
the integer ones of the signed types of up to 32 bits. -/
namespace Mooon.Args
open List

def dash : UInt8 := 45
def equalSign : UInt8 := 61

def versionName : Str := [118,101,114,115,105,111,110]
def helpName : Str := [104,101,108,112]

def ascii (text : String) : Str := text.toList.map fun char => UInt8.ofNat char.toNat

def intText (value : Int) : Str := if value < 0 then minus::decimal value.natAbs else decimal value.natAbs

/-- The bounds of an integer argument are values of its type. -/
structure IntRange where
  type : IntType
  minValue : Int
  maxValue : Int
  minTyped : type.lowest ≤ minValue
  maxTyped : maxValue ≤ type.highest

def IntRange.Inside (range : IntRange) (value : Int) : Prop := range.minValue ≤ value ∧ value ≤ range.maxValue

instance (range : IntRange) (value : Int) : Decidable (range.Inside value) :=
  inferInstanceAs (Decidable (_ ∧ _))

/-- A `CStringArgument` or a `CIntArgument`, whose default is inside its bounds, as every value it
takes is. -/
inductive Body where
  | string (defaultValue value : Str)
  | int (range : IntRange) (defaultValue value : {value : Int // range.Inside value}) (strValue : Str)

structure Argument where
  name : Str
  helpString : Str
  checked : Bool
  body : Body

def Argument.string (name defaultValue helpString : Str) : Argument :=
  ⟨name,helpString,false,.string defaultValue defaultValue⟩

def Argument.int (name : Str) (range : IntRange) (defaultValue : {value : Int // range.Inside value})
    (helpString : Str) : Argument :=
  ⟨name,helpString,false,.int range defaultValue defaultValue []⟩

inductive Value where
  | string (value : Str)
  | int (value : Int)
deriving DecidableEq

def Argument.value (argument : Argument) : Value :=
  match argument.body with
  | .string _ value => .string value
  | .int _ _ value _ => .int value

def Argument.setValue (newValue : Str) (argument : Argument) : Argument × Option Str :=
  match argument.body with
  | .string defaultValue _ => ({argument with body := .string defaultValue newValue},none)
  | .int range defaultValue value _ =>
    -- the text is kept, also of a value that is refused
    let argument := {argument with body := .int range defaultValue value newValue}
    match string2int range.type newValue 0 false with
    | none =>
      (argument,some (ascii "invalid value[" ++ newValue ++ ascii "] of argument[" ++
        argument.name ++ ascii "]"))
    | some number =>
      if inside : range.Inside number then
        ({argument with body := .int range defaultValue ⟨number,inside⟩ newValue},none)
      else (argument,some (ascii "value[" ++ intText number ++ ascii "] of argument[" ++ argument.name ++
        ascii "] not between " ++ intText range.minValue ++ ascii " and " ++ intText range.maxValue))

def Argument.usageString (argument : Argument) : Str :=
  let dashes := if argument.name.length < 2 then [dash] else [dash,dash]
  let values := match argument.body with
    | .string defaultValue _ => defaultValue
    | .int range defaultValue _ _ =>
      intText defaultValue ++ ascii "/" ++ intText range.minValue ++ ascii "," ++ intText range.maxValue
  dashes ++ argument.name ++ ascii "[" ++ values ++ ascii "]: " ++ argument.helpString

abbrev Container := Table Argument.name

def Container.usageString (container : Container) : Str :=
  ascii "usage:\n" ++ (container.rows.map fun argument => argument.usageString ++ ascii "\n").flatten

def Container.addArgument (argument : Argument) (container : Container) : Container :=
  if fresh : argument.name ∉ container.rows.map Argument.name then
    ⟨container.rows ++ [argument],by
      rw [map_append,map_singleton]
      exact List.nodup_append.mpr ⟨container.unique,nodup_singleton _,by
        rintro name member _ same rfl
        exact fresh (List.mem_singleton.mp same ▸ member)⟩⟩
  else container

def register (arguments : List Argument) : Container :=
  arguments.foldl (fun container argument => container.addArgument argument) .empty

variable (newValue : Str) (argument : Argument)

theorem Argument.setValue_name : (argument.setValue newValue).1.name = argument.name := by
  unfold Argument.setValue
  split
  · rfl
  · split
    · rfl
    · split <;> rfl

def setNamed (name value : Str) (argument : Argument) : Argument :=
  if argument.name = name then (Argument.setValue value {argument with checked := true}).1 else argument

variable (name : Str)

theorem setNamed_name (value : Str) (argument : Argument) :
    (setNamed name value argument).name = argument.name := by
  unfold setNamed
  split
  · exact Argument.setValue_name value _
  · rfl

def Container.setArgument (name value : Str) (container : Container) : Container × Option Str :=
  match container.find name with
  | none => (container,some (ascii "undefined argument: " ++ name))
  | some argument =>
    (container.update (setNamed name value) (setNamed_name name value),
      (Argument.setValue value {argument with checked := true}).2)

def Container.checkParameters (container : Container) : Container × Bool :=
  (container.update (fun argument => {argument with checked := true}) fun _ => rfl,true)

def removePrefixOfArgumentName (argumentName : Str) : Str := argumentName.dropWhile (· = dash)

def argumentName (argument : Str) : Str := removePrefixOfArgumentName (argument.takeWhile (· ≠ equalSign))

def argumentValue (argument : Str) : Str := (argument.dropWhile (· ≠ equalSign)).drop 1

structure Parsed where
  container : Container
  helpString : Str
  result : Bool
  errmsg : Str

def parseLoop (versionString errmsg : Str) : List Str → Container → Container × Bool × Str
  | [], container => (container,true,errmsg)
  | argument::rest, container =>
    if argumentName argument = versionName then (container,false,versionString)
    else if argumentName argument = helpName then (container,false,[])
    else
      match container.setArgument (argumentName argument) (argumentValue argument) with
      | (container,some errmsg) => (container,false,errmsg)
      | (container,none) => parseLoop versionString errmsg rest container

def parseArguments (versionString : Str) (argv : List Str) (errmsg : Str) (container : Container) : Parsed :=
  match parseLoop versionString errmsg argv.tail container with
  | (after,false,errmsg) => ⟨after,container.usageString,false,errmsg⟩
  | (after,true,errmsg) => ⟨after.checkParameters.1,container.usageString,after.checkParameters.2,errmsg⟩

/-- The text is dashes, the name and nothing, or an equal sign and the value. -/
def Names (text name value : Str) : Prop :=
  ∃ dashes rest, text = List.replicate dashes dash ++ (name ++ rest) ∧ name.head? ≠ some dash ∧
    equalSign ∉ name ∧
    (rest = [] ∧ value = [] ∨ rest = equalSign::value)

inductive Kind where
  | string (defaultValue : Str)
  | int (range : IntRange) (defaultValue : Int)

def Argument.kind (argument : Argument) : Kind :=
  match argument.body with
  | .string defaultValue _ => .string defaultValue
  | .int range defaultValue _ _ => .int range defaultValue

def Kind.defaultValue : Kind → Value
  | .string defaultValue => .string defaultValue
  | .int _ defaultValue => .int defaultValue

def Kind.Takes (text : Str) (value : Value) : Kind → Prop
  | .string _ => value = .string text
  | .int range _ => ∃ number, Denotes text number ∧ range.Inside number ∧ value = .int number

def Accepts (declared : List Argument) (text : Str) : Prop :=
  ∃ argument ∈ declared, ∃ given value, Names text argument.name given ∧ argument.name ≠ versionName ∧
    argument.name ≠ helpName ∧ argument.kind.Takes given value

/-- The value of the last assignment to an argument, or its default if there is none. -/
def LastAssigned (argument : Argument) (texts : List Str) (value : Value) : Prop :=
  (∃ before text later given, texts = before ++ text::later ∧ Names text argument.name given ∧
    argument.kind.Takes given value ∧ ∀ other ∈ later, ∀ given, ¬ Names other argument.name given) ∨
  (∀ text ∈ texts, ∀ given, ¬ Names text argument.name given) ∧ value = argument.kind.defaultValue

variable (text : Str)

theorem takeWhile_dash : ∃ count, text.takeWhile (· = dash) = replicate count dash := by
  refine ⟨_,eq_replicate_of_mem ?_⟩
  intro char mem
  simpa using mem_takeWhile_imp mem

theorem names_self : Names text (argumentName text) (argumentValue text) := by
  obtain ⟨count,dashes⟩ := takeWhile_dash (text.takeWhile (· ≠ equalSign))
  refine ⟨count,text.dropWhile (· ≠ equalSign),?_,?_,?_,?_⟩
  · rw [← dashes,argumentName,removePrefixOfArgumentName,← append_assoc,takeWhile_append_dropWhile,
      takeWhile_append_dropWhile]
  · intro begins
    have first := head?_dropWhile_not (fun char => decide (char = dash)) (text.takeWhile (· ≠ equalSign))
    rw [argumentName,removePrefixOfArgumentName] at begins
    rw [begins] at first
    simp at first
  · intro mem
    have inside := (dropWhile_suffix _).subset mem
    simpa using mem_takeWhile_imp inside
  · cases rest : text.dropWhile (· ≠ equalSign) with
    | nil => exact .inl ⟨rfl,by rw [argumentValue,rest]; rfl⟩
    | cons char tail =>
      have first := head?_dropWhile_not (fun char => decide (char ≠ equalSign)) text
      rw [rest] at first
      have same : char = equalSign := by simpa using first
      exact .inr (by rw [argumentValue,rest,same]; rfl)

theorem names_iff {name value : Str} :
    Names text name value ↔ name = argumentName text ∧ value = argumentValue text := by
  constructor
  · rintro ⟨count,rest,rfl,head,none,shape⟩
    have dashes : ∀ char ∈ replicate count dash, decide (char ≠ equalSign) = true := by
      intro char mem
      cases eq_of_mem_replicate mem
      decide
    have named : ∀ char ∈ name, decide (char ≠ equalSign) = true := by
      intro char mem
      exact decide_eq_true fun same => none (same ▸ mem)
    have behind : rest.takeWhile (· ≠ equalSign) = [] ∧ rest.dropWhile (· ≠ equalSign) = rest := by
      rcases shape with ⟨rfl,-⟩ | rfl
      · exact ⟨rfl,rfl⟩
      · simp
    have stripped : name.dropWhile (· = dash) = name := by
      cases name with
      | nil => rfl
      | cons char name =>
        have other : char ≠ dash := by simpa using head
        simp [other]
    constructor
    · rw [argumentName,removePrefixOfArgumentName,takeWhile_append_of_pos dashes,
        takeWhile_append_of_pos named,behind.1,append_nil,dropWhile_append_of_pos,stripped]
      intro char mem
      exact decide_eq_true (eq_of_mem_replicate mem)
    · rw [argumentValue,dropWhile_append_of_pos dashes,dropWhile_append_of_pos named]
      rcases shape with ⟨rfl,rfl⟩ | rfl
      · rfl
      · rfl
  · rintro ⟨rfl,rfl⟩
    exact names_self text

theorem Argument.setValue_kind : (argument.setValue newValue).1.kind = argument.kind := by
  unfold Argument.setValue Argument.kind
  cases argument.body with
  | string defaultValue value => rfl
  | int range defaultValue value strValue =>
    dsimp only
    cases string2int range.type newValue 0 false with
    | none => rfl
    | some number =>
      by_cases inside : range.Inside number
      · simp [inside]
      · simp [inside]

theorem Argument.setValue_cases :
    (argument.setValue newValue).2 = none ∧
      argument.kind.Takes newValue (argument.setValue newValue).1.value ∨
      (argument.setValue newValue).2 ≠ none ∧ (argument.setValue newValue).1.value = argument.value ∧
        ∀ value, ¬ argument.kind.Takes newValue value := by
  unfold Argument.setValue Argument.kind Argument.value
  cases argument.body with
  | string defaultValue value => exact .inl ⟨rfl,rfl⟩
  | int range defaultValue value strValue =>
    dsimp only
    cases converted : string2int range.type newValue 0 false with
    | none =>
      refine .inr ⟨by simp,rfl,?_⟩
      rintro _ ⟨number,denoted,inside,-⟩
      have taken := string2int_eq_some.mpr ⟨denoted,range.minTyped.trans inside.1,
        inside.2.trans range.maxTyped⟩
      rw [converted] at taken
      cases taken
    | some number =>
      obtain ⟨denoted,-⟩ := string2int_eq_some.mp converted
      dsimp only
      split
      · rename_i inside
        exact .inl ⟨rfl,number,denoted,inside,rfl⟩
      · rename_i outside
        refine .inr ⟨by simp,rfl,?_⟩
        rintro _ ⟨other,denoted',inside,-⟩
        have taken := string2int_eq_some.mpr ⟨denoted',range.minTyped.trans inside.1,
          inside.2.trans range.maxTyped⟩
        rw [converted] at taken
        cases taken
        exact outside inside

section
variable {arg : Argument} {texts : List Str} {value : Value} {text : Str}

theorem lastAssigned_self {given : Str} (named : Names text arg.name given)
    (taken : arg.kind.Takes given value) : LastAssigned arg (texts ++ [text]) value :=
  .inl ⟨texts,text,[],given,rfl,named,taken,by simp⟩

theorem lastAssigned_other (other : ∀ given, ¬ Names text arg.name given)
    (last : LastAssigned arg texts value) : LastAssigned arg (texts ++ [text]) value := by
  rcases last with ⟨before,assigned,later,given,rfl,named,taken,none⟩ | ⟨none,default⟩
  · refine .inl ⟨before,assigned,later ++ [text],given,by simp,named,taken,?_⟩
    exact forall_mem_append.mpr ⟨none,forall_mem_singleton.mpr other⟩
  · exact .inr ⟨forall_mem_append.mpr ⟨none,forall_mem_singleton.mpr other⟩,default⟩

end

/-- The arguments of the container are the declared ones, with the values of their last assignments. -/
def Follows (declared : List Argument) (texts : List Str) (container : Container) : Prop :=
  List.Forall₂ (fun argument after => after.name = argument.name ∧ after.kind = argument.kind ∧
    LastAssigned argument texts after.value) declared container.rows

section
variable {First Second : Type} {related : First → Second → Prop} {firsts : List First} {seconds : List Second}

theorem exists_related (all : List.Forall₂ related firsts seconds) :
    (∀ first ∈ firsts, ∃ second ∈ seconds, related first second) ∧
      ∀ second ∈ seconds, ∃ first ∈ firsts, related first second := by
  induction all with
  | nil => simp
  | cons here _ ih =>
    simp only [forall_mem_cons,exists_mem_cons_iff]
    exact ⟨⟨.inl here,fun first mem => .inr (ih.1 first mem)⟩,
      ⟨.inl here,fun second mem => .inr (ih.2 second mem)⟩⟩

theorem forall₂_of_mem {other : First → Second → Prop} (all : List.Forall₂ related firsts seconds)
    (implied : ∀ first, ∀ second ∈ seconds, related first second → other first second) :
    List.Forall₂ other firsts seconds := by
  induction all with
  | nil => exact .nil
  | cons here _ ih =>
    obtain ⟨first,later⟩ := forall_and.mp fun item => forall_mem_cons.mp (implied item)
    exact .cons (first _ here) (ih later)

end

section
variable {declared : List Argument} {texts : List Str} {container : Container} {name value : Str}

theorem setNamed_kind {argument : Argument} :
    (setNamed name value argument).kind = argument.kind := by
  unfold setNamed
  split
  · exact Argument.setValue_kind value _
  · rfl

theorem Follows.update (follows : Follows declared texts container) {found : Argument}
    {after : List Str} (there : found ∈ container) (named : found.name = name)
    (own : ∀ argument, found.name = argument.name → found.kind = argument.kind →
      LastAssigned argument texts found.value →
        LastAssigned argument after (Argument.setValue value {found with checked := true}).1.value)
    (others : ∀ argument value, argument.name ≠ name → LastAssigned argument texts value →
      LastAssigned argument after value) :
    Follows declared after (container.update (setNamed name value) (setNamed_name name value)) := by
  refine forall₂_map_right_iff.mpr (forall₂_of_mem follows ?_)
  rintro before row mem ⟨sameName,sameKind,last⟩
  refine ⟨(setNamed_name _ _ row).trans sameName,setNamed_kind.trans sameKind,?_⟩
  by_cases same : row.name = name
  · cases Table.eq_of_key mem there (same.trans named.symm)
    rw [setNamed,if_pos same]
    exact own before sameName sameKind last
  · rw [setNamed,if_neg same]
    exact others before row.value (fun equal => same (sameName.trans equal)) last

variable {text : Str} {next : Container}

theorem Follows.assigned (follows : Follows declared texts container)
    (done : container.setArgument (argumentName text) (argumentValue text) = (next,none)) :
    Follows declared (texts ++ [text]) next ∧ ∃ argument ∈ declared, argument.name = argumentName text ∧
      ∃ value, argument.kind.Takes (argumentValue text) value := by
  unfold Container.setArgument at done
  cases found : container.find (argumentName text) with
  | none =>
    rw [found] at done
    cases done
  | some argument =>
    rw [found] at done
    obtain ⟨there,named⟩ := Table.find_some found
    obtain ⟨rfl,succeeded⟩ := Prod.mk.inj done
    rcases Argument.setValue_cases (argumentValue text) {argument with checked := true} with
      ⟨-,taken⟩ | ⟨failed,-⟩
    · constructor
      · apply follows.update there named
        · intro before name kind _
          exact lastAssigned_self ((names_iff _).mpr ⟨name.symm.trans named,rfl⟩) (kind ▸ taken)
        · intro before value other
          exact lastAssigned_other fun given own => other ((names_iff _).mp own).1
      · obtain ⟨before,mem,name,kind,-⟩ := (exists_related follows).2 argument there
        exact ⟨before,mem,name.symm.trans named,_,kind ▸ taken⟩
    · exact absurd succeeded failed

theorem Follows.refused (follows : Follows declared texts container) {errmsg : Str}
    (done : container.setArgument (argumentName text) (argumentValue text) = (next,some errmsg)) :
    Follows declared texts next ∧ ∀ argument ∈ declared, argument.name = argumentName text →
      ∀ value, ¬ argument.kind.Takes (argumentValue text) value := by
  unfold Container.setArgument at done
  cases found : container.find (argumentName text) with
  | none =>
    rw [found] at done
    cases done
    refine ⟨follows,?_⟩
    intro argument mem named
    obtain ⟨after,there,name,-⟩ := (exists_related follows).1 argument mem
    have other := find?_eq_none.mp found after there
    exact absurd (decide_eq_true (name.trans named)) other
  | some argument =>
    rw [found] at done
    obtain ⟨there,named⟩ := Table.find_some found
    obtain ⟨rfl,failed⟩ := Prod.mk.inj done
    rcases Argument.setValue_cases (argumentValue text) {argument with checked := true} with
      ⟨succeeded,-⟩ | ⟨-,kept,refused⟩
    · rw [succeeded] at failed
      cases failed
    · constructor
      · apply follows.update there named
        · intro before _ _ last
          rw [kept]
          exact last
        · exact fun _ _ _ last => last
      · intro before mem name value taken
        obtain ⟨after,there',name',kind,-⟩ := (exists_related follows).1 before mem
        cases Table.eq_of_key there' there (name'.trans (name.trans named.symm))
        rw [← kind] at taken
        exact refused value taken

theorem accepts_iff : Accepts declared text ↔
    argumentName text ≠ versionName ∧ argumentName text ≠ helpName ∧ ∃ argument ∈ declared,
      argument.name = argumentName text ∧ ∃ value, argument.kind.Takes (argumentValue text) value := by
  constructor
  · rintro ⟨argument,mem,given,value,named,noVersion,noHelp,taken⟩
    obtain ⟨name,rfl⟩ := (names_iff _).mp named
    rw [name] at noVersion noHelp
    exact ⟨noVersion,noHelp,argument,mem,name,value,taken⟩
  · rintro ⟨noVersion,noHelp,argument,mem,name,value,taken⟩
    have named := (names_iff _).mpr ⟨name,rfl⟩
    rw [← name] at noVersion noHelp
    exact ⟨argument,mem,_,value,named,noVersion,noHelp,taken⟩

theorem parseLoop_follows (versionString errmsg : Str) (rest : List Str)
    (follows : Follows declared texts container) :
    ∃ accepted rejected, rest = accepted ++ rejected ∧ (∀ text ∈ accepted, Accepts declared text) ∧
      (∀ text ∈ rejected.head?, ¬ Accepts declared text) ∧
      Follows declared (texts ++ accepted) (parseLoop versionString errmsg rest container).1 ∧
      ((parseLoop versionString errmsg rest container).2.1 = true ↔ rejected = []) := by
  induction rest generalizing texts container with
  | nil => exact ⟨[],[],rfl,by simp,by simp,by simpa [parseLoop] using follows,by simp [parseLoop]⟩
  | cons text rest ih =>
    -- the first text is rejected: no text is accepted
    have stops : ∀ outcome : Container × Bool × Str, outcome.2.1 = false → Follows declared texts outcome.1 →
        ¬ Accepts declared text → ∃ accepted rejected, text::rest = accepted ++ rejected ∧
          (∀ text ∈ accepted, Accepts declared text) ∧ (∀ text ∈ rejected.head?, ¬ Accepts declared text) ∧
          Follows declared (texts ++ accepted) outcome.1 ∧ (outcome.2.1 = true ↔ rejected = []) := by
      intro outcome failed follows refused
      exact ⟨[],text::rest,rfl,by simp,by simpa using refused,by simpa using follows,by simp [failed]⟩
    rw [parseLoop]
    by_cases version : argumentName text = versionName
    · rw [if_pos version]
      exact stops _ rfl follows fun accepted => (accepts_iff.mp accepted).1 version
    rw [if_neg version]
    by_cases help : argumentName text = helpName
    · rw [if_pos help]
      exact stops _ rfl follows fun accepted => (accepts_iff.mp accepted).2.1 help
    rw [if_neg help]
    split
    · rename_i next msg done
      obtain ⟨after,refused⟩ := follows.refused done
      refine stops _ rfl after fun accepted => ?_
      obtain ⟨-,-,argument,mem,name,value,taken⟩ := accepts_iff.mp accepted
      exact refused argument mem name value taken
    · rename_i next done
      obtain ⟨after,taken⟩ := follows.assigned done
      obtain ⟨accepted,rejected,rfl,all,first,final,res⟩ := ih after
      refine ⟨text::accepted,rejected,rfl,?_,first,by simpa using final,res⟩
      exact forall_mem_cons.mpr ⟨accepts_iff.mpr ⟨version,help,taken⟩,all⟩

end

def Argument.Fresh (argument : Argument) : Prop := argument.value = argument.kind.defaultValue

theorem Argument.string_fresh
    {defaultValue helpString : Str} : (Argument.string name defaultValue helpString).Fresh :=
  rfl

theorem Argument.int_fresh {range : IntRange} {defaultValue : {value : Int // range.Inside value}}
    {helpString : Str} : (Argument.int name range defaultValue helpString).Fresh :=
  rfl

variable {container : Container}

theorem addArgument_rows {argument : Argument} (fresh : argument.name ∉ container.rows.map Argument.name) :
    (container.addArgument argument).rows = container.rows ++ [argument] := by
  rw [Container.addArgument,dif_pos fresh]

theorem foldl_addArgument_rows {declared : List Argument}
    (nodup : (container.rows.map Argument.name ++ declared.map Argument.name).Nodup) :
    (declared.foldl (fun container argument => container.addArgument argument) container).rows =
      container.rows ++ declared := by
  induction declared generalizing container with
  | nil => simp
  | cons argument declared ih =>
    have fresh : argument.name ∉ container.rows.map Argument.name := by
      intro mem
      exact (nodup_append.mp nodup).2.2 _ mem _ (by simp) rfl
    rw [foldl_cons,ih,addArgument_rows fresh]
    · simp
    · rw [addArgument_rows fresh]
      simpa using nodup

variable {declared : List Argument}

theorem register_rows (nodup : (declared.map Argument.name).Nodup) : (register declared).rows = declared := by
  rw [register,foldl_addArgument_rows]
  · rfl
  · simpa [Table.empty] using nodup

theorem follows_register (nodup : (declared.map Argument.name).Nodup)
    (fresh : ∀ argument ∈ declared, argument.Fresh) : Follows declared [] (register declared) := by
  rw [Follows,register_rows nodup]
  refine forall₂_same.mpr ?_
  intro argument mem
  exact ⟨rfl,rfl,.inr ⟨by simp,fresh argument mem⟩⟩

theorem Follows.checked {texts : List Str}
    (follows : Follows declared texts container) : Follows declared texts container.checkParameters.1 :=
  forall₂_map_right_iff.mpr follows

theorem parseArguments_correct {declared : List Argument} (distinct : (declared.map Argument.name).Nodup)
    (fresh : ∀ argument ∈ declared, argument.Fresh) (versionString errmsg : Str) (argv : List Str) :
    ((parseArguments versionString argv errmsg (register declared)).result = true ↔
      ∀ text ∈ argv.tail, Accepts declared text) ∧
    (∃ accepted rejected, argv.tail = accepted ++ rejected ∧ (∀ text ∈ accepted, Accepts declared text) ∧
      (∀ text ∈ rejected.head?, ¬ Accepts declared text) ∧
      Follows declared accepted (parseArguments versionString argv errmsg (register declared)).container) ∧
    ∀ argument newValue, (Argument.setValue newValue argument).2 ≠ none →
      (Argument.setValue newValue argument).1.value = argument.value := by
  obtain ⟨accepted,rejected,split,all,first,follows,result⟩ :=
    parseLoop_follows versionString errmsg argv.tail (follows_register distinct fresh)
  have every : rejected = [] ↔ ∀ text ∈ argv.tail, Accepts declared text := by
    rw [split]
    constructor
    · rintro rfl
      simpa using all
    · intro every
      cases rejected with
      | nil => rfl
      | cons text rejected => exact absurd (every text (by simp)) (first text rfl)
  have unchanged : ∀ argument newValue, (Argument.setValue newValue argument).2 ≠ none →
      (Argument.setValue newValue argument).1.value = argument.value := by
    intro argument newValue failed
    rcases Argument.setValue_cases newValue argument with ⟨succeeded,-⟩ | ⟨-,kept,-⟩
    · exact absurd succeeded failed
    · exact kept
  rw [← every,← result]
  unfold parseArguments
  generalize parseLoop versionString errmsg argv.tail (register declared) = outcome at follows
  obtain ⟨after,_ | _,message⟩ := outcome
  · exact ⟨Iff.rfl,⟨accepted,rejected,split,all,first,follows⟩,unchanged⟩
  · exact ⟨Iff.rfl,⟨accepted,rejected,split,all,first,follows.checked⟩,unchanged⟩

def levelRange : IntRange := ⟨.int8,-3,9,by decide,by decide⟩

def levelAndFile : List Argument :=
  [.int (ascii "level") levelRange ⟨1,by decide⟩ [],.string (ascii "f") (ascii "a.txt") []]

theorem parseArguments_correct_level :
    (parseArguments [] [ascii "tool",ascii "--level=-2",ascii "-f=x=y"] []
      (register levelAndFile)).result = true ∧
      Accepts levelAndFile (ascii "--level=-2") ∧ ¬ Accepts levelAndFile (ascii "--level=10") := by
  have distinct : (levelAndFile.map Argument.name).Nodup := by decide +kernel
  have fresh : ∀ argument ∈ levelAndFile, argument.Fresh :=
    forall_mem_cons.mpr ⟨Argument.int_fresh _,forall_mem_singleton.mpr (Argument.string_fresh _)⟩
  have accepted := parseArguments_correct distinct fresh [] [] [ascii "tool",ascii "--level=-2",
    ascii "-f=x=y"]
  have refused := parseArguments_correct distinct fresh [] [] [ascii "tool",ascii "--level=10"]
  have succeeded : (parseArguments [] [ascii "tool",ascii "--level=-2",ascii "-f=x=y"] []
    (register levelAndFile)).result = true := by decide +kernel
  refine ⟨succeeded,accepted.1.mp succeeded _ (by simp),?_⟩
  intro accepts
  have failed : (parseArguments [] [ascii "tool",ascii "--level=10"] []
      (register levelAndFile)).result = false := by
    decide +kernel
  rw [refused.1.mpr (by simpa using accepts)] at failed
  cases failed

end Mooon.Args

import Mooon.Net.RecvMachine

/-! `CHttpParser`, the chain of commands that parses the head of a request or a response.
Pointers are addresses, and a piece of the head is the bytes in front of its terminating NUL.
The event handler is the function that answers its last event from all events so far. -/
namespace Mooon.Http
open Net (Bytes HandleResult)

def nul : UInt8 := 0
def lineFeed : UInt8 := 10
def carriageReturn : UInt8 := 13
def space : UInt8 := 32
def colon : UInt8 := 58

inductive Token where
  | method
  | url
  | version
  | code
  | describe
deriving DecidableEq

inductive Event where
  | onToken (token : Token) (start stop : Nat)
  | onNameValuePair (nameBegin : Nat) (nameEnd valueBegin : Option Nat) (valueEnd : Nat)
  | onError (errmsg : String)
deriving DecidableEq

inductive Command where
  | token (token : Token)
  | nameValuePair
  | headEnd
deriving DecidableEq

structure Pair where
  ignoreColon : Bool
  nameBegin : Option Nat
  nameEnd : Option Nat
  valueBegin : Option Nat
deriving DecidableEq

def Pair.reset : Pair := ⟨false,none,none,none⟩

structure Scan where
  begins : Token → Option Nat
  pair : Pair
  events : List Event

def Scan.reset : Scan := ⟨fun _ => none,.reset,[]⟩

def Scan.emit (scan : Scan) (event : Event) : Scan := {scan with events := scan.events ++ [event]}

structure Parser where
  isRequest : Bool
  headLength : Nat
  headFinished : Bool
  commands : List Command
  scan : Scan

def chain : Bool → List Command
  | true => [.token .method,.token .url,.token .version,.nameValuePair,.headEnd]
  | false => [.token .version,.token .code,.token .describe,.nameValuePair,.headEnd]

def Parser.reset (isRequest : Bool) : Parser := ⟨isRequest,0,false,chain isRequest,.reset⟩

def Token.endChar (isRequest : Bool) : Token → UInt8
  | .method | .url | .code => space
  | .version => if isRequest then carriageReturn else space
  | .describe => carriageReturn

/-- The memory of the commands, the result, and the address and the bytes where a command stops. -/
abbrev Execution := Scan × HandleResult × Nat × Bytes

section
variable (isRequest : Bool) (accept : List Event → Bool)

def doExecute (token : Token) : Scan → Nat → Bytes → Execution
  | scan, iter, [] => (scan,.handleContinue,iter,[])
  | scan, iter, char::rest =>
    if char = nul then (scan,.handleContinue,iter,char::rest)
    else
      match scan.begins token with
      | none =>
        -- a space is one round of `skip_spaces`
        if char = space then doExecute token scan (iter+1) rest
        else doExecute token {scan with begins := Function.update scan.begins token (some iter)} (iter+1) rest
      | some start =>
        if char = token.endChar isRequest then
          let scan := scan.emit (.onToken token start iter)
          if accept scan.events = false then (scan,.handleError,iter,char::rest)
          else (scan,.handleFinish,iter+1,rest)
        else doExecute token scan (iter+1) rest

def pairRound (scan : Scan) (nameBegin iter : Nat) (char : UInt8) : Scan × Bool :=
  if scan.pair.valueBegin = none ∧ scan.pair.nameEnd ≠ none then
    -- a space is one round of `skip_spaces`
    if char = space then (scan,true) else ({scan with pair.valueBegin := some iter},true)
  else if char = carriageReturn then
    let scan := scan.emit (.onNameValuePair nameBegin scan.pair.nameEnd scan.pair.valueBegin iter)
    if accept scan.events = false then (scan,false) else ({scan with pair := .reset},true)
  else if char = colon ∧ scan.pair.ignoreColon = false then
    ({scan with pair.nameEnd := some iter, pair.ignoreColon := true},true)
  else (scan,true)

def pairExecute : Scan → Nat → Bytes → Execution
  | scan, iter, [] => (scan,.handleContinue,iter,[])
  | scan, iter, char::rest =>
    if char = nul then (scan,.handleContinue,iter,char::rest)
    else
      match scan.pair.nameBegin with
      | none =>
        if char ≠ lineFeed then (scan.emit (.onError "NV pair not started with '\\n'"),.handleError,
          iter,char::rest)
        else
          -- the line feed is passed here, and nothing remembers it
          match rest with
          | [] => (scan,.handleContinue,iter+1,[])
          | second::rest =>
            if second = nul then (scan,.handleContinue,iter+1,second::rest)
            else if second = carriageReturn then (scan,.handleFinish,iter+2,rest)
            else pairExecute {scan with pair.nameBegin := some (iter+1)} (iter+2) rest
      | some nameBegin =>
        match pairRound accept scan nameBegin iter char with
        | (scan,true) => pairExecute scan (iter+1) rest
        | (scan,false) => (scan,.handleError,iter,char::rest)

def headEndExecute (scan : Scan) (iter : Nat) : Bytes → Execution
  | [] => (scan,.handleContinue,iter,[])
  | char::rest =>
    if char = nul then (scan,.handleContinue,iter,char::rest)
    else if char ≠ lineFeed then
      (scan.emit (.onError "http head not ended with '\\n'"),.handleError,iter,char::rest)
    else (scan,.handleFinish,iter+1,rest)

def execute : Command → Scan → Nat → Bytes → Execution
  | .token token => doExecute isRequest accept token
  | .nameValuePair => pairExecute accept
  | .headEnd => headEndExecute

end

/-- The loop of `parse` over the current command and those behind it. With no command left
the code reads through a null pointer. -/
def Parser.parseWith (accept : List Event → Bool) : List Command → Parser → Nat → Bytes →
    Parser × HandleResult
  | [], parser, _, _ => (parser,.handleError)
  | command::next, parser, tmp, buffer =>
    match execute parser.isRequest accept command parser.scan tmp buffer with
    | (scan,.handleError,_,_) => ({parser with scan := scan},.handleError)
    | (scan,.handleContinue,iter,_) =>
      ({parser with headLength := parser.headLength + (iter-tmp), scan := scan},.handleContinue)
    | (scan,.handleFinish,iter,rest) =>
      let parser := {parser with headLength := parser.headLength + (iter-tmp), commands := next, scan := scan}
      if next = [] then ({parser with headFinished := true},.handleFinish)
      else parseWith accept next parser iter rest

def Parser.parse (accept : List Event → Bool) (parser : Parser) (address : Nat)
    (buffer : Bytes) : Parser × HandleResult :=
  parser.parseWith accept parser.commands address buffer

def feed (accept : List Event → Bool) (state : Parser × Nat)
    (piece : Bytes) : (Parser × Nat) × HandleResult :=
  let (parser,result) := state.1.parse accept state.2 piece
  ((parser,state.2 + piece.length),result)

end Mooon.Http

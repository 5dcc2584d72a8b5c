import Mooon.Run

/-! `CTcpClient`: who owns the socket of a connection, and what the client says of its state.
The answers of the system calls are in the actions. A socket has the number of its `socket`
call; next to the members of the class the client keeps the sockets that are open. -/
namespace Mooon.Net

abbrev Errno := Nat

def eInProgress : Errno := 115
def eIsConn : Errno := 106

inductive ConnectState where
  | unestablished
  | established
  | establishing
deriving DecidableEq

/-- The answers to `socket`, `fcntl` and `connect`: nothing, or the error. -/
structure Calls where
  socket : Option Errno
  setNonblock : Option Errno
  connect : Option Errno

/-- The further answers that `timed_connect` gets: `poll` may be late. -/
structure TimedCalls extends Calls where
  poll : Option Bool
  getsockopt : Bool
  errcode : Errno
  clearNonblock : Option Errno

structure TcpClient where
  fd : Option Nat
  connectState : ConnectState
  reconnectTimes : Nat
  milliSeconds : Nat
  created : Nat
  openSockets : List Nat
deriving DecidableEq

inductive Result where
  | returned
  | thrown
deriving DecidableEq

/-- What `do_connect` leaves behind; no result is an exception. -/
structure Attempt where
  client : TcpClient
  fd : Option Nat
  errno : Errno
  result : Option Bool

namespace TcpClient

def start (milliSeconds : Nat) : TcpClient := ⟨none,.unestablished,0,milliSeconds,0,[]⟩

section
variable (client : TcpClient)

def openSocket : TcpClient :=
  {client with created := client.created + 1, openSockets := client.openSockets ++ [client.created]}

def closeSocket (fd : Option Nat) : TcpClient :=
  {client with openSockets := client.openSockets.filter (fun socket => fd ≠ some socket)}

def doConnect (nonblock : Bool) (calls : Calls) (errno : Errno) : Attempt :=
  match calls.socket with
  | some error => ⟨client,none,error,none⟩
  | none =>
    match if nonblock then calls.setNonblock else none with
    | some error => ⟨client.openSocket,some client.created,error,none⟩
    | none => match calls.connect with
      | none => ⟨client.openSocket,some client.created,errno,some true⟩
      | some error => ⟨client.openSocket,some client.created,error,some (error = eIsConn)⟩

def setConnectedState : TcpClient :=
  if client.connectState = .establishing then
    {client with connectState := .established, reconnectTimes := 0} else client

def asyncConnect (calls : Calls) (errno : Errno) : TcpClient × Result :=
  let attempt := {client with reconnectTimes := client.reconnectTimes + 1}.doConnect true calls errno
  match attempt.result with
  | none => (attempt.client,.thrown)
  | some connected =>
    if connected = false ∧ attempt.errno ≠ eInProgress then (attempt.client,.thrown)
    else if attempt.errno = eInProgress then
      ({attempt.client with fd := attempt.fd, connectState := .establishing},.returned)
    else ({attempt.client with fd := attempt.fd, connectState := .established, reconnectTimes := 0},.returned)

/-- `timed_connect` after an attempt in progress; false is an exception. -/
def awaitConnect (calls : TimedCalls) : Bool :=
  calls.poll = some true && calls.getsockopt && calls.errcode = 0 && calls.clearNonblock.isNone

def timedConnect (calls : TimedCalls) (errno : Errno) : TcpClient × Result :=
  let attempt := {client with reconnectTimes := client.reconnectTimes + 1}.doConnect (0 < client.milliSeconds)
    calls.toCalls errno
  let connected := match attempt.result with
    | none => false
    | some true => true
    | some false =>
      if client.milliSeconds = 0 ∨ attempt.errno ≠ eInProgress then false else awaitConnect calls
  if connected then
    ({attempt.client with fd := attempt.fd, connectState := .established, reconnectTimes := 0},.returned)
  else (attempt.client.closeSocket attempt.fd,.thrown)

def close : TcpClient :=
  {client.closeSocket client.fd with fd := none, connectState := .unestablished}

inductive Action where
  | asyncConnect (calls : Calls) (errno : Errno)
  | timedConnect (calls : TimedCalls) (errno : Errno)
  | setConnectedState
  | close

def step : Action → TcpClient × Result
  | .asyncConnect calls errno => client.asyncConnect calls errno
  | .timedConnect calls errno => client.timedConnect calls errno
  | .setConnectedState => (client.setConnectedState,.returned)
  | .close => (client.close,.returned)

def Owned : Prop := client.openSockets = client.fd.toList

def Truthful (calls : Calls) : Prop :=
  (client.connectState = .established ↔ calls.connect = none) ∧
    (client.connectState = .establishing ↔ calls.connect = some eInProgress)

/-- The step leaves no socket behind, and an `async_connect` that returns leaves the true state. -/
def Sound (action : Action) : Prop :=
  (client.step action).1.Owned ∧ match action with
    | .asyncConnect calls _ => (client.step action).2 = .returned → (client.step action).1.Truthful calls
    | _ => True

def ConnectsFree : Action → Prop
  | .asyncConnect _ _ | .timedConnect _ _ => client.fd = none
  | .setConnectedState | .close => True

end

/-- An `async_connect` gets no socket, or its `connect` is in progress, or succeeds where `errno`
was not `EINPROGRESS` before. -/
def Action.Clean : Action → Prop
  | .asyncConnect calls errno => calls.socket ≠ none ∨
      calls.setNonblock = none ∧
        (calls.connect = some eInProgress ∨ calls.connect = none ∧ errno ≠ eInProgress)
  | _ => True

variable {client : TcpClient}

theorem Owned.none_open (owned : client.Owned) (free : client.fd = none) : client.openSockets = [] := by
  rw [owned,free,Option.toList_none]

variable {errno : Errno}

theorem asyncConnect_sound_iff (owned : client.Owned) (free : client.fd = none) {calls : Calls} :
    client.Sound (.asyncConnect calls errno) ↔ (Action.asyncConnect calls errno).Clean := by
  have none_open := owned.none_open free
  obtain ⟨socket,setNonblock,connect⟩ := calls
  cases socket with
  | some error => simp [Sound,step,asyncConnect,doConnect,Action.Clean,Owned,none_open,free]
  | none =>
    cases setNonblock with
    | some error => simp [Sound,step,asyncConnect,doConnect,openSocket,Action.Clean,Owned,none_open,free]
    | none =>
      cases connect with
      | none =>
        by_cases stale : errno = eInProgress
        · simp [Sound,step,asyncConnect,doConnect,Action.Clean,Truthful,stale]
        · simp [Sound,step,asyncConnect,doConnect,openSocket,Action.Clean,Owned,Truthful,none_open,stale]
      | some error =>
        by_cases progress : error = eInProgress
        · simp [Sound,step,asyncConnect,doConnect,openSocket,Action.Clean,Owned,Truthful,none_open,progress]
        · by_cases connected : error = eIsConn
          · -- the state says held although `connect` has failed
            have nodup : eIsConn ≠ eInProgress := by decide
            simp [Sound,step,asyncConnect,doConnect,Action.Clean,Truthful,connected,nodup]
          · simp [Sound,step,asyncConnect,doConnect,openSocket,Action.Clean,Owned,free,progress,connected]

theorem doConnect_sockets (client : TcpClient) (none_open : client.openSockets = [])
    (nonblock : Bool) (calls : Calls)
    (errno : Errno) : (client.doConnect nonblock calls errno).client.openSockets =
      (client.doConnect nonblock calls errno).fd.toList := by
  unfold doConnect
  split
  · exact none_open
  · split
    · simp [openSocket,none_open]
    · split <;> simp [openSocket,none_open]

theorem closeSocket_all {fd : Option Nat} (all : client.openSockets = fd.toList) :
    (client.closeSocket fd).openSockets = [] := by
  cases fd <;> simp [closeSocket,all]

theorem doConnect_fd (client : TcpClient) (nonblock : Bool) (calls : Calls) (errno : Errno) :
    (client.doConnect nonblock calls errno).client.fd = client.fd := by
  unfold doConnect
  split
  · rfl
  · split
    · rfl
    · split <;> rfl

theorem timedConnect_owned (owned : client.Owned) (free : client.fd = none) {calls : TimedCalls} :
    (client.timedConnect calls errno).1.Owned := by
  have none_open := owned.none_open free
  have sockets := doConnect_sockets {client with reconnectTimes := client.reconnectTimes + 1} none_open
    (0 < client.milliSeconds) calls.toCalls errno
  have fd := doConnect_fd {client with reconnectTimes := client.reconnectTimes + 1} (0 < client.milliSeconds)
    calls.toCalls errno
  unfold timedConnect
  generalize doConnect _ _ _ _ = attempt at sockets fd ⊢
  dsimp only
  generalize (match attempt.result with | none => false | some true => true | some false => _) = connected
  split
  · exact sockets
  · show (attempt.client.closeSocket attempt.fd).openSockets = attempt.client.fd.toList
    rw [closeSocket_all sockets,fd,free,Option.toList_none]

theorem sound_iff_clean (owned : client.Owned) {act : Action}
    (free : client.ConnectsFree act) : client.Sound act ↔ act.Clean := by
  cases act with
  | asyncConnect calls errno => exact asyncConnect_sound_iff owned free
  | timedConnect calls errno => exact ⟨fun _ => trivial,fun _ => ⟨timedConnect_owned owned free,trivial⟩⟩
  | setConnectedState =>
    refine ⟨fun _ => trivial,fun _ => ⟨?_,trivial⟩⟩
    show client.setConnectedState.Owned
    unfold setConnectedState
    split <;> exact owned
  | close => exact ⟨fun _ => trivial,fun _ => ⟨closeSocket_all owned,trivial⟩⟩

theorem sound_run_iff (milliSeconds : Nat) (actions : List Action)
    (free : Run.Meets ConnectsFree step (start milliSeconds) actions) :
    Run.Meets Sound step (start milliSeconds) actions ↔ ∀ action ∈ actions, action.Clean := by
  have owned : (start milliSeconds).Owned := rfl
  generalize start milliSeconds = client at free owned ⊢
  induction actions generalizing client with
  | nil => simp [Run.Meets]
  | cons action rest ih =>
    have first := sound_iff_clean owned free.1
    rw [List.forall_mem_cons,← first]
    constructor
    · rintro ⟨sound,later⟩
      exact ⟨sound,(ih _ free.2 sound.1).mp later⟩
    · rintro ⟨sound,later⟩
      exact ⟨sound,(ih _ free.2 sound.1).mpr later⟩

theorem sound_run_iff_reconnects :
    Run.Meets ConnectsFree step (start 0) [.asyncConnect ⟨none,none,some 115⟩ 0,.setConnectedState,.close,
        .asyncConnect ⟨none,none,none⟩ 4] ∧
      (Run.Meets Sound step (start 0) [.asyncConnect ⟨none,none,some 115⟩ 0,.setConnectedState,.close,
          .asyncConnect ⟨none,none,none⟩ 4] ↔
        ∀ action ∈ [Action.asyncConnect ⟨none,none,some 115⟩ 0,.setConnectedState,.close,
          .asyncConnect ⟨none,none,none⟩ 4], action.Clean) :=
  ⟨⟨rfl,trivial,trivial,rfl,trivial⟩,sound_run_iff 0 _ ⟨rfl,trivial,trivial,rfl,trivial⟩⟩

theorem refused_leaks_and_stale_lies :
    ((start 0).step (.asyncConnect ⟨none,none,some 111⟩ 0)).1 = ⟨none,.unestablished,1,0,1,[0]⟩ ∧
      ¬(start 0).Sound (.asyncConnect ⟨none,none,some 111⟩ 0) ∧
      ((start 0).step (.asyncConnect ⟨none,none,none⟩ 115)).1.connectState = .establishing ∧
      ¬(start 0).Sound (.asyncConnect ⟨none,none,none⟩ 115) := by
  refine ⟨by decide,fun sound => ?_,by decide,fun sound => ?_⟩
  · cases sound.1
  · have truthful := (sound.2 rfl).2.mp rfl
    cases truthful

end TcpClient

end Mooon.Net

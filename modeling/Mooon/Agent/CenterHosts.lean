import Mooon.Run
import Mathlib.Data.List.Rotate

/-! The list of centers of `CAgentThread`: `parse_domainname_or_iplist` brings it up to date with
the addresses that a domain name has now, `poll_choose_center_host` takes the centers in turn. The
results of `get_ip_address` and of the split at commas are part of the request. -/
namespace Mooon.Agent.Centers
open List

/-- A `CCenterHost`; `address` tells the objects apart. -/
structure CenterHost where
  address : Nat
  ip : String
  port : UInt16
  reconnTimes : UInt32
deriving DecidableEq

/-- `_center_hosts`; new objects get the addresses from `nextAddress` on. -/
structure Hosts where
  centerHosts : List CenterHost
  nextAddress : Nat
  distinct : (centerHosts.map CenterHost.ip).Nodup
  separate : (centerHosts.map CenterHost.address).Nodup
  fresh : ∀ host ∈ centerHosts, host.address < nextAddress
deriving DecidableEq

def Hosts.none : Hosts := ⟨[],0,.nil,.nil,fun _ member => absurd member List.not_mem_nil⟩

/-- The first loop, from where the iterator stands: what is left of the list and what was deleted.
The iterator that `erase` returns is advanced before it is looked at; at the end of the list that
has no defined result. -/
def removeGone (ips : List String) : List CenterHost → Option (List CenterHost × List CenterHost)
  | [] => some ([],[])
  | host::rest =>
    if host.ip ∈ ips then (removeGone ips rest).map fun (kept,deleted) => (host::kept,deleted)
    else
      match rest with
      | [] => Option.none
      | next::more => (removeGone ips more).map fun (kept,deleted) => (next::kept,host::deleted)

theorem removeGone_sublist (ips : List String) (hosts : List CenterHost) :
    ∀ {kept deleted}, removeGone ips hosts = some (kept,deleted) → kept.Sublist hosts := by
  fun_induction removeGone ips hosts with
  | case1 =>
    rintro kept deleted ⟨⟩
    exact .slnil
  | case2 host rest _ ih =>
    intro kept deleted removed
    obtain ⟨⟨less,gone⟩,found,same⟩ := Option.map_eq_some_iff.mp removed
    cases same
    exact (ih found).cons_cons host
  | case3 host _ =>
    intro kept deleted removed
    cases removed
  | case4 host _ next more ih =>
    intro kept deleted removed
    obtain ⟨⟨less,gone⟩,found,same⟩ := Option.map_eq_some_iff.mp removed
    cases same
    exact .cons host ((ih found).cons_cons next)

def Hosts.keep (hosts : Hosts) (kept : List CenterHost) (less : kept.Sublist hosts.centerHosts) : Hosts where
  centerHosts := kept
  nextAddress := hosts.nextAddress
  distinct := hosts.distinct.sublist (less.map _)
  separate := hosts.separate.sublist (less.map _)
  fresh := fun host member => hosts.fresh host (less.subset member)

def Hosts.push (hosts : Hosts) (ip : String) (port : UInt16)
    (new : ip ∉ hosts.centerHosts.map CenterHost.ip) : Hosts where
  centerHosts := hosts.centerHosts ++ [⟨hosts.nextAddress,ip,port,0⟩]
  nextAddress := hosts.nextAddress + 1
  distinct := by
    rw [List.map_append]
    exact hosts.distinct.append (List.nodup_singleton ip) (List.disjoint_singleton.mpr new)
  separate := by
    rw [List.map_append]
    refine hosts.separate.append (List.nodup_singleton hosts.nextAddress) (List.disjoint_singleton.mpr ?_)
    intro member
    obtain ⟨host,inside,same⟩ := List.mem_map.mp member
    exact absurd same (Nat.ne_of_lt (hosts.fresh host inside))
  fresh := by
    intro host member
    rcases List.mem_append.mp member with old | last
    · exact Nat.lt_succ_of_lt (hosts.fresh host old)
    · rw [List.mem_singleton.mp last]
      exact Nat.lt_succ_self _

def Hosts.addIp (port : UInt16) (hosts : Hosts) (ip : String) : Hosts :=
  if new : ip ∉ hosts.centerHosts.map CenterHost.ip then hosts.push ip port new else hosts

/-- What `parse_domainname_or_iplist` finds: the stop flag, the port, the answer of `get_ip_address`
unless it fails, and the parts of the text between its commas. -/
structure Request where
  stop : Bool
  port : UInt16
  resolved : Option (List String)
  tokens : List String

def Request.ips (request : Request) : List String := request.resolved.getD request.tokens

structure Result where
  hosts : Hosts
  deleted : List CenterHost
  found : Bool
deriving DecidableEq

def Hosts.update (port : UInt16) (ips : List String) (hosts : Hosts) : Option (Hosts × List CenterHost) :=
  match removed : removeGone ips hosts.centerHosts with
  | .none => .none
  | some (kept,deleted) =>
    some (ips.foldl (Hosts.addIp port) (hosts.keep kept (removeGone_sublist ips _ removed)),deleted)

def parseDomainnameOrIplist (request : Request) (hosts : Hosts) : Option Result :=
  if request.stop then some ⟨hosts,[],false⟩
  else if request.resolved = .none ∧ request.tokens = [] then some ⟨hosts,[],false⟩
  else if request.ips = [] then some ⟨hosts,[],!hosts.centerHosts.isEmpty⟩
  else (hosts.update request.port request.ips).map fun (after,deleted) =>
    ⟨after,deleted,!after.centerHosts.isEmpty⟩

def Hosts.rotate (hosts : Hosts) : Hosts where
  centerHosts := hosts.centerHosts.rotate 1
  nextAddress := hosts.nextAddress
  distinct := by
    rw [List.map_rotate]
    exact List.nodup_rotate.mpr hosts.distinct
  separate := by
    rw [List.map_rotate]
    exact List.nodup_rotate.mpr hosts.separate
  fresh := fun host member => hosts.fresh host (List.mem_rotate.mp member)

def pollChooseCenterHost (hosts : Hosts) : Option (CenterHost × Hosts) :=
  hosts.centerHosts.head?.map fun chosen => (chosen,hosts.rotate)

def CenterHost.count (address : Nat) (times : UInt32 → UInt32) (host : CenterHost) : CenterHost :=
  if host.address = address then {host with reconnTimes := times host.reconnTimes} else host

theorem CenterHost.ip_count {addr : Nat} {times : UInt32 → UInt32} :
    CenterHost.ip ∘ CenterHost.count addr times = CenterHost.ip := by
  funext host
  simp only [Function.comp_apply,CenterHost.count]
  split <;> rfl

theorem CenterHost.address_count (addr : Nat) (times : UInt32 → UInt32) :
    CenterHost.address ∘ CenterHost.count addr times = CenterHost.address := by
  funext host
  simp only [Function.comp_apply,CenterHost.count]
  split <;> rfl

def Hosts.count (address : Nat) (times : UInt32 → UInt32) (hosts : Hosts) : Hosts where
  centerHosts := hosts.centerHosts.map (CenterHost.count address times)
  nextAddress := hosts.nextAddress
  distinct := by
    rw [List.map_map,CenterHost.ip_count]
    exact hosts.distinct
  separate := by
    rw [List.map_map,CenterHost.address_count]
    exact hosts.separate
  fresh := by
    intro host member
    obtain ⟨old,inside,rfl⟩ := List.mem_map.mp member
    have address := congrFun (CenterHost.address_count address times) old
    exact address.trans_lt (hosts.fresh old inside)

def connectCenter (request : Request) (connects : Bool) (hosts : Hosts) : Option (Hosts × Bool) := do
  let result ← parseDomainnameOrIplist request hosts
  if result.found then
    let (chosen,rotated) ← pollChooseCenterHost result.hosts
    if connects then return (rotated.count chosen.address fun _ => 0,true)
    else return (rotated.count chosen.address (· + 1),false)
  else return (result.hosts,false)

/-- Every host that is gone stands right before one that is not. -/
def Followed (ips : List String) (hosts : List CenterHost) : Prop :=
  ∀ before host after, hosts = before ++ host::after → host.ip ∉ ips →
    ∃ next rest, after = next::rest ∧ next.ip ∈ ips

section
variable {ips : List String} {hosts : List CenterHost}

theorem followed_nil : Followed ips [] := by
  intro before host after split
  simp at split

theorem followed_cons {host : CenterHost} {rest : List CenterHost} : Followed ips (host::rest) ↔
      (host.ip ∉ ips → ∃ next more, rest = next::more ∧ next.ip ∈ ips) ∧ Followed ips rest := by
  constructor
  · intro followed
    refine ⟨fun gone => followed [] host rest rfl gone,?_⟩
    intro before other after split
    apply followed (host::before)
    rw [split,cons_append]
  · rintro ⟨first,later⟩ before other after split gone
    cases before with
    | nil =>
      obtain ⟨rfl,rfl⟩ := cons.inj split
      exact first gone
    | cons _ before =>
      obtain ⟨rfl,same⟩ := cons.inj split
      exact later before other after same gone

theorem removeGone_followed (followed : Followed ips hosts) :
    removeGone ips hosts = some (hosts.filter (·.ip ∈ ips),hosts.filter (·.ip ∉ ips)) := by
  fun_induction removeGone ips hosts with
  | case1 => rfl
  | case2 host rest present ih =>
    rw [ih (followed_cons.mp followed).2]
    simp [present]
  | case3 host gone =>
    obtain ⟨next,more,same,-⟩ := (followed_cons.mp followed).1 gone
    cases same
  | case4 host gone next more ih =>
    obtain ⟨stands,later⟩ := followed_cons.mp followed
    obtain ⟨other,others,same,present⟩ := stands gone
    cases same
    rw [ih (followed_cons.mp later).2]
    simp [gone,present]

-- the host behind one that is gone is never looked at
theorem followed_of_removeGone : ∀ {kept deleted}, removeGone ips hosts = some (kept,deleted) →
    (∀ host ∈ kept, host.ip ∈ ips) → Followed ips hosts := by
  fun_induction removeGone ips hosts with
  | case1 => exact fun _ _ => followed_nil
  | case2 host rest present ih =>
    intro kept deleted removed every
    obtain ⟨⟨less,gone⟩,found,same⟩ := Option.map_eq_some_iff.mp removed
    cases same
    exact followed_cons.mpr ⟨fun absent => absurd present absent,ih found (forall_mem_cons.mp every).2⟩
  | case3 host gone =>
    intro kept deleted removed
    cases removed
  | case4 host absent next more ih =>
    intro kept deleted removed every
    obtain ⟨⟨less,gone⟩,found,same⟩ := Option.map_eq_some_iff.mp removed
    cases same
    obtain ⟨present,others⟩ := forall_mem_cons.mp every
    refine followed_cons.mpr ⟨fun _ => ⟨next,more,rfl,present⟩,?_⟩
    exact followed_cons.mpr ⟨fun missing => absurd present missing,ih found others⟩

end

section
variable {port : UInt16} {hosts : Hosts}

theorem addIp_hosts {ip : String} : hosts.centerHosts.Sublist (hosts.addIp port ip).centerHosts := by
  unfold Hosts.addIp
  split
  · exact sublist_append_left _ _
  · exact .refl _

theorem mem_addIp_ips {ip other : String} : other ∈ (hosts.addIp port ip).centerHosts.map CenterHost.ip ↔
      other = ip ∨ other ∈ hosts.centerHosts.map CenterHost.ip := by
  unfold Hosts.addIp
  split
  · simp only [Hosts.push,map_append,mem_append,map_cons,map_nil,mem_singleton]
    exact or_comm
  · rename_i present
    constructor
    · exact Or.inr
    · rintro (rfl | inside)
      · exact not_not.mp present
      · exact inside

variable (port hosts) in
theorem addIps_hosts (ips : List String) :
    hosts.centerHosts.Sublist (ips.foldl (Hosts.addIp port) hosts).centerHosts := by
  induction ips generalizing hosts with
  | nil => exact .refl _
  | cons ip rest ih => exact addIp_hosts.trans (ih _)

theorem mem_addIps_ips {ips : List String} {other : String} :
    other ∈ (ips.foldl (Hosts.addIp port) hosts).centerHosts.map CenterHost.ip ↔
      other ∈ ips ∨ other ∈ hosts.centerHosts.map CenterHost.ip := by
  induction ips generalizing hosts with
  | nil => simp
  | cons ip rest ih =>
    rw [foldl_cons,ih,mem_addIp_ips,mem_cons]
    tauto

end

/-- One host for each new address, the same object where there was one, and every other object
deleted once. -/
structure Updated (ips : List String) (before after : Hosts) (deleted : List CenterHost) : Prop where
  each : ∀ ip, (after.centerHosts.map CenterHost.ip).count ip = if ip ∈ ips then 1 else 0
  same : ∀ host ∈ before.centerHosts, host.ip ∈ ips → host ∈ after.centerHosts
  gone : ∀ host, deleted.count host = if host ∈ before.centerHosts ∧ host.ip ∉ ips then 1 else 0

section
variable {port : UInt16} {ips : List String} {before after : Hosts} {deleted : List CenterHost}

theorem update_some (updated : before.update port ips = some (after,deleted)) :
    ∃ kept, ∃ removed : removeGone ips before.centerHosts = some (kept,deleted),
      after = ips.foldl (Hosts.addIp port) (before.keep kept (removeGone_sublist ips _ removed)) := by
  unfold Hosts.update at updated
  split at updated
  · cases updated
  · rename_i kept gone removed
    cases updated
    exact ⟨kept,removed,rfl⟩

variable (port) in
theorem update_updated (followed : Followed ips before.centerHosts) :
    ∃ after deleted, before.update port ips = some (after,deleted) ∧ Updated ips before after deleted := by
  have removed := removeGone_followed followed
  cases updated : before.update port ips with
  | none =>
    unfold Hosts.update at updated
    split at updated
    · rename_i failed
      rw [removed] at failed
      cases failed
    · cases updated
  | some res =>
    obtain ⟨after,deleted⟩ := res
    obtain ⟨kept,found,rfl⟩ := update_some updated
    rw [removed] at found
    cases found
    refine ⟨_,_,rfl,?_,?_,?_⟩
    · intro ip
      have inside : ip ∈ (ips.foldl (Hosts.addIp port)
        (before.keep _ (removeGone_sublist ips _ removed))).centerHosts.map
          CenterHost.ip ↔ ip ∈ ips := by
        rw [mem_addIps_ips,or_iff_left_iff_imp]
        intro mem
        obtain ⟨host,kept,rfl⟩ := mem_map.mp mem
        simpa using (mem_filter.mp kept).2
      rw [(Hosts.distinct _).count,if_congr inside rfl rfl]
    · intro host mem present
      apply (addIps_hosts port _ ips).subset
      exact mem_filter.mpr ⟨mem,by simpa using present⟩
    · intro host
      have nodup := before.distinct.of_map _
      rw [(nodup.filter _).count]
      apply if_congr _ rfl rfl
      rw [mem_filter,decide_eq_true_eq]

theorem followed_of_updated (found : before.update port ips = some (after,deleted))
    (updated : Updated ips before after deleted) : Followed ips before.centerHosts := by
  obtain ⟨kept,removed,rfl⟩ := update_some found
  apply followed_of_removeGone removed
  intro host mem
  have inside := (addIps_hosts port (before.keep kept (removeGone_sublist ips _ removed)) ips).subset mem
  have counted := updated.each host.ip
  by_contra gone
  rw [if_neg gone,count_eq_zero] at counted
  exact counted (mem_map.mpr ⟨host,inside,rfl⟩)

end

def Follows (request : Request) (hosts : Hosts) : Prop :=
  ∃ result, parseDomainnameOrIplist request hosts = some result ∧
    (request.ips = [] → result.hosts = hosts ∧ result.deleted = []) ∧
    (request.ips ≠ [] → Updated request.ips hosts result.hosts result.deleted)

variable {request : Request} {hosts : Hosts}

theorem parse_of_ips (running : request.stop = false) (found : request.ips ≠ []) :
    parseDomainnameOrIplist request hosts = (hosts.update request.port request.ips).map fun (after,deleted) =>
        ⟨after,deleted,!after.centerHosts.isEmpty⟩ := by
  have some : ¬(request.resolved = .none ∧ request.tokens = []) := by
    rintro ⟨failed,empty⟩
    apply found
    rw [Request.ips,failed,empty]
    rfl
  unfold parseDomainnameOrIplist
  rw [running,if_neg (by decide),if_neg some,if_neg found]

theorem parse_of_no_ips (none : request.ips = []) :
    ∃ found, parseDomainnameOrIplist request hosts = some ⟨hosts,[],found⟩ := by
  unfold parseDomainnameOrIplist
  split
  · exact ⟨_,rfl⟩
  · split
    · exact ⟨_,rfl⟩
    · exact ⟨_,rfl⟩

variable {hosts : Hosts}

theorem follows_of_followed (running : request.stop = false)
    (followed : request.ips ≠ [] → Followed request.ips hosts.centerHosts) : Follows request hosts := by
  by_cases none : request.ips = []
  · obtain ⟨found,parsed⟩ := parse_of_no_ips none
    exact ⟨_,parsed,fun _ => ⟨rfl,rfl⟩,fun some => absurd none some⟩
  · obtain ⟨after,deleted,found,updated⟩ := update_updated request.port (followed none)
    refine ⟨_,by rw [parse_of_ips running none,found]; rfl,?_,fun _ => updated⟩
    exact fun empty => absurd empty none

/-- A call does what it should exactly when no host that is gone stands in front of another one or
at the end. -/
theorem follows_iff (request : Request) (hosts : Hosts) (running : request.stop = false) :
    Follows request hosts ↔ (request.ips ≠ [] → Followed request.ips hosts.centerHosts) := by
  constructor
  · rintro ⟨result,parsed,-,updated⟩ some
    rw [parse_of_ips running some] at parsed
    obtain ⟨⟨after,deleted⟩,found,rfl⟩ := Option.map_eq_some_iff.mp parsed
    exact followed_of_updated found (updated some)
  · exact follows_of_followed running

/-- One `connect_center` after the other; there is no list any more behind a walk without a result. -/
def attempt : Option Hosts → Request × Bool → Option Hosts × Bool
  | .none, _ => (.none,false)
  | some hosts, (request,connects) =>
    match connectCenter request connects hosts with
    | .none => (.none,false)
    | some (after,connected) => (some after,connected)

variable {result : Result}

section
variable (parsed : parseDomainnameOrIplist request hosts = some result)
include parsed

theorem parse_found (found : result.found) :
    result.hosts.centerHosts ≠ [] := by
  unfold parseDomainnameOrIplist at parsed
  split_ifs at parsed
  · cases parsed
    cases found
  · cases parsed
    cases found
  · cases parsed
    simpa using found
  · obtain ⟨⟨after,deleted⟩,-,rfl⟩ := Option.map_eq_some_iff.mp parsed
    simpa using found

theorem connectCenter_some {connects : Bool} :
    ∃ after connected, connectCenter request connects hosts = some (after,connected) := by
  simp only [connectCenter,parsed,Option.bind_eq_bind,Option.bind_some]
  by_cases found : result.found
  · obtain ⟨chosen,rest,list⟩ := exists_cons_of_ne_nil (parse_found parsed found)
    simp only [found,if_true,pollChooseCenterHost,list]
    split
    · exact ⟨_,_,rfl⟩
    · exact ⟨_,_,rfl⟩
  · rw [if_neg found]
    exact ⟨_,_,rfl⟩

end

/-- The call, unless it is stopped, meets no host that is gone in front of another one or at the end. -/
def InPlace (state : Option Hosts) (call : Request × Bool) : Prop :=
  ∀ hosts, state = some hosts → call.1.stop = false → call.1.ips ≠ [] → Followed call.1.ips hosts.centerHosts

theorem attempt_some {call : Request × Bool} (inPlace : InPlace (some hosts) call) :
    ∃ after, (attempt (some hosts) call).1 = some after := by
  obtain ⟨request,connects⟩ := call
  have parsed : ∃ result, parseDomainnameOrIplist request hosts = some result := by
    cases stop : request.stop with
    | true =>
      rw [parseDomainnameOrIplist,if_pos stop]
      exact ⟨_,rfl⟩
    | false =>
      obtain ⟨result,parsed,-⟩ := follows_of_followed stop (inPlace hosts rfl stop)
      exact ⟨result,parsed⟩
  obtain ⟨result,parsed⟩ := parsed
  obtain ⟨after,connected,found⟩ := connectCenter_some parsed
  refine ⟨after,?_⟩
  rw [attempt,found]

/-- A run of such calls stays defined, and every one of them brings the list up to date. -/
theorem attempts_defined {initial : Hosts} {calls : List (Request × Bool)}
    (inPlace : Run.Meets InPlace attempt (some initial) calls) :
    (∃ hosts, Run.final attempt (some initial) calls = some hosts) ∧
      Run.Meets (fun state call => ∃ hosts, state = some hosts ∧ (call.1.stop = false → Follows call.1 hosts))
        attempt (some initial) calls := by
  have next (state : Option Hosts) (call : Request × Bool) (defined : ∃ hosts, state = some hosts)
      (inPlace : InPlace state call) : ∃ hosts, (attempt state call).1 = some hosts := by
    obtain ⟨hosts,rfl⟩ := defined
    exact attempt_some inPlace
  refine ⟨Run.invariant (∃ hosts, · = some hosts) next _ calls ⟨initial,rfl⟩ inPlace,?_⟩
  refine Run.meets_of_invariant (∃ hosts, · = some hosts) next ?_ _ calls ⟨initial,rfl⟩ inPlace
  rintro state call ⟨hosts,rfl⟩ inPlace
  exact ⟨hosts,rfl,fun running => follows_of_followed running (inPlace hosts rfl running)⟩

def host (address : Nat) (ip : String) : CenterHost := ⟨address,ip,4000,2⟩

def threeHosts : Hosts where
  centerHosts := [host 0 "10.0.0.1",host 1 "10.0.0.2",host 2 "10.0.0.3"]
  nextAddress := 3
  distinct := by decide
  separate := by decide
  fresh := by decide

def resolve (ips : List String) : Request := ⟨false,4000,some ips,[]⟩

def threeCalls : List (Request × Bool) :=
  [(resolve ["10.0.0.1","10.0.0.2","10.0.0.3"],false),(resolve ["10.0.0.3","10.0.0.1"],false),
    (resolve ["10.0.0.3","10.0.0.4"],true)]

section
variable {ips : List String} {host next : CenterHost} {rest : List CenterHost}

theorem followed_present (present : host.ip ∈ ips) (later : Followed ips rest) : Followed ips (host::rest) :=
  followed_cons.mpr ⟨fun gone => absurd present gone,later⟩

theorem followed_gone (present : next.ip ∈ ips)
    (later : Followed ips rest) : Followed ips (host::next::rest) :=
  followed_cons.mpr ⟨fun _ => ⟨_,_,rfl,present⟩,followed_present present later⟩

end

theorem inPlace_of_followed {state : Option Hosts} {call : Request × Bool} (list : List CenterHost)
    (holds : state.map (·.centerHosts) = some list) (followed : Followed call.1.ips list) :
    InPlace state call := by
  rintro hosts rfl - -
  cases holds
  exact followed

-- the second center is gone when it stands before the third, then the first one is
theorem attempts_defined_three : (∃ hosts, Run.final attempt (some .none) threeCalls = some hosts) ∧
    Run.Meets (fun state call => ∃ hosts, state = some hosts ∧ (call.1.stop = false → Follows call.1 hosts))
      attempt (some .none) threeCalls := by
  refine attempts_defined ⟨?_,?_,?_,trivial⟩
  · exact inPlace_of_followed [] rfl followed_nil
  · exact inPlace_of_followed [⟨1,"10.0.0.2",4000,0⟩,⟨2,"10.0.0.3",4000,0⟩,⟨0,"10.0.0.1",4000,1⟩] (by decide)
      (followed_gone (by decide) (followed_present (by decide) followed_nil))
  · exact inPlace_of_followed [⟨0,"10.0.0.1",4000,1⟩,⟨2,"10.0.0.3",4000,1⟩] (by decide)
      (followed_gone (by decide) followed_nil)

theorem follows_first_gone : Follows (resolve ["10.0.0.3","10.0.0.2","10.0.0.4"]) threeHosts := by
  apply (follows_iff (resolve ["10.0.0.3","10.0.0.2","10.0.0.4"]) threeHosts rfl).mpr
  intro _
  exact followed_gone (by decide) (followed_present (by decide) followed_nil)

-- the second host is gone too and stays; where the last host is gone, the walk has no result
theorem gone_host_stays :
    (parseDomainnameOrIplist (resolve ["10.0.0.3"]) threeHosts).map (·.hosts.centerHosts) =
        some [host 1 "10.0.0.2",host 2 "10.0.0.3"] ∧ ¬Follows (resolve ["10.0.0.3"]) threeHosts ∧
      parseDomainnameOrIplist (resolve ["10.0.0.1","10.0.0.2"]) threeHosts = .none := by
  refine ⟨by decide,?_,by decide⟩
  rintro ⟨result,parsed,-,updated⟩
  have each := (updated (by decide)).each "10.0.0.2"
  have count : ((parseDomainnameOrIplist (resolve ["10.0.0.3"]) threeHosts).map fun result =>
      (result.hosts.centerHosts.map CenterHost.ip).count "10.0.0.2") = some 1 := by decide
  rw [parsed,Option.map_some,each] at count
  exact absurd count (by decide)

end Mooon.Agent.Centers

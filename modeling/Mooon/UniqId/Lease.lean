import Mooon.UniqId.Serving
import Mooon.UniqId.Master

/-! One master, any number of agents and a network that drops, duplicates and reorders datagrams,
but delivers none later than the freeze time. Where the local time of the master does not fall back,
a lease that an agent may still think valid is backed by a row of the online table, or by a renewal
the master still keeps in memory, so no label is held by two agents at once. -/
namespace Mooon.UniqId.Lease
open UniqId.Agent (SeqFile Config labelExpired)

structure Setting where
  expire : UInt32
  zone : Int → Int
  config : UInt32 → Config
  localtime : TimeT → Option Tm
  masters : ∀ ip, (config ip).masterMode = true
  same : ∀ ip, (config ip).expire = expire
  fits : expire.toNat + (Master.freeze expire).toNat < 2^32

/-- An agent that waits for the label of its start may still send `rounds` requests. -/
inductive Process where
  | down (file : SeqFile)
  | waiting (rounds : Nat) (agent : Agent.State)
  | up (agent : Agent.State)

def Process.agent : Process → Option Agent.State
  | .down _ => none
  | .waiting _ agent => some agent
  | .up agent => some agent

structure Packet where
  sent : TimeT
  ip : UInt32
  message : MessageHead
deriving DecidableEq

/-- The packets are all those ever sent: one that is delivered may be delivered again. -/
structure System where
  now : TimeT
  master : Master.State
  agents : UInt32 → Process
  requests : List Packet
  replies : List Packet

def restored : Agent.State × Bool → Process
  | (agent,true) => .up agent
  | (agent,false) => .down agent.sequenceFile

def start (config : Config) (now : TimeT) (written : Bool) (file : SeqFile) : Process × Option MessageHead :=
  match Agent.restoreRead config (.start file now) with
  | .failed => (.down file,none)
  | .known agent label => (restored (Agent.restoreStore config label written agent),none)
  | .rent agent =>
    let (agent,request) := Agent.rentRequest agent
    (.waiting 1 agent,some request)

def await (config : Config) (rounds : Nat) (message : Option MessageHead) (written : Bool)
    (agent : Agent.State) : Process × Option MessageHead :=
  match Agent.receiveLabel agent message,rounds with
  | (agent,.label label),_ => (restored (Agent.restoreRented config label written agent),none)
  | (agent,.retry),rounds+1 =>
    let (agent,request) := Agent.rentRequest agent
    (.waiting rounds agent,some request)
  | (agent,.retry),0 => (.down agent.sequenceFile,none)
  | (agent,.failed),_ => (.down agent.sequenceFile,none)

def hear (setting : Setting) (ip : UInt32) (message : MessageHead) (written : Bool) :
    Process → Process × Option MessageHead
  | .down file => (.down file,none)
  | .waiting rounds agent => await (setting.config ip) rounds (some message) written agent
  | .up agent =>
    match Agent.receive (setting.config ip) setting.localtime message written agent with
    | none => (.down (Agent.incSequence (setting.config ip) 1 written agent).1.sequenceFile,none)
    | some (next,sent) => (.up next,sent.toMaster)

def Process.ofMachine : Agent.Machine → Process
  | .down file => .down file
  | .up agent => .up agent

def settle (config : Config) (written : Bool) : Nat → List (Option MessageHead) → Process → Process
  | answers+1, replies, .waiting rounds agent =>
    settle config written answers replies.tail (await config rounds replies.head?.join written agent).1
  | _, _, process => process

variable (config : Config) (written : Bool)

theorem settle_restored (answers : Nat) (replies : List (Option MessageHead))
    (res : Agent.State × Bool) : settle config written answers replies (restored res) = restored res := by
  obtain ⟨agent,ok⟩ := res
  cases ok <;> cases answers <;> rfl

variable {written : Bool} {now : TimeT}

theorem settle_start {replies : List (Option MessageHead)} {file : SeqFile} :
    settle config written 2 replies (start config now written file).1 =
      Process.ofMachine (Agent.restart config now replies written file) := by
  have machine : Process.ofMachine (Agent.restart config now replies written file) =
      restored (Agent.restoreSequence config replies written (.start file now)) := by
    unfold Agent.restart
    rcases Agent.restoreSequence config replies written (.start file now) with ⟨agent,_ | _⟩ <;> rfl
  rw [machine]
  unfold start Agent.restoreSequence
  cases Agent.restoreRead config (.start file now) with
  | failed => rfl
  | known agent label => exact settle_restored config written 2 replies _
  | rent agent =>
    dsimp only [settle,await,Agent.rentLabelSync]
    cases first : Agent.receiveLabel (Agent.rentRequest agent).1 replies.head?.join with
    | mk middle answer =>
      cases answer with
      | label label => exact settle_restored config written 1 _ _
      | failed => rfl
      | retry =>
        dsimp only [settle,await]
        cases Agent.receiveLabel (Agent.rentRequest middle).1 replies.tail.head?.join with
        | mk last answer =>
          cases answer with
          | label label => exact settle_restored config written 0 replies _
          | failed | retry => rfl

inductive Action where
  | tick (now : TimeT)
  | start (ip : UInt32) (written : Bool)
  | crash (ip : UInt32)
  | wake (ip : UInt32)
  | silence (ip : UInt32)
  | client (ip : UInt32) (message : MessageHead) (written : Bool)
  | reply (packet : Packet) (written : Bool)
  | request (packet : Packet) (choice : UInt8)
  | timeout

def Process.file : Process → SeqFile
  | .down file => file
  | .waiting _ agent => agent.sequenceFile
  | .up agent => agent.sequenceFile

def System.node (system : System) (ip : UInt32) (next : Process × Option MessageHead) : System :=
  {system with
    agents := Function.update system.agents ip next.1
    requests := system.requests ++ (next.2.map (Packet.mk system.now ip)).toList}

def System.serve (system : System) (ip : UInt32) (next : Master.State × Option MessageHead) : System :=
  {system with
    master := next.1
    replies := system.replies ++ (next.2.map (Packet.mk system.now ip)).toList}

def step (setting : Setting) (system : System) : Action → System × Unit
  | .tick now => ({system with now := now},())
  | .start ip written =>
    (system.node ip (start (setting.config ip) system.now written (system.agents ip).file),())
  | .crash ip => (system.node ip (.down (system.agents ip).file,none),())
  | .wake ip =>
    match system.agents ip with
    | .up agent =>
      let (agent,request) := Agent.wake (setting.config ip) system.now agent
      (system.node ip (.up agent,request),())
    | _ => (system,())
  | .silence ip =>
    match system.agents ip with
    | .waiting rounds agent => (system.node ip (await (setting.config ip) rounds none true agent),())
    | _ => (system,())
  | .client ip message written => (system.node ip (hear setting ip message written (system.agents ip)),())
  | .reply packet written =>
    (system.node packet.ip (hear setting packet.ip packet.message written (system.agents packet.ip)),())
  | .request packet choice =>
    (system.serve packet.ip
      (Master.receive setting.zone setting.expire system.now packet.ip packet.message choice Master.executed
        system.master),())
  | .timeout =>
    ({system with
      master := Master.onTimeout setting.zone setting.expire system.now Master.executed
        (fun _ => Master.executed) system.master},())

def OnTime (setting : Setting) (now : TimeT) (packet : Packet) : Prop :=
  now.toInt ≤ packet.sent.toInt + (Master.freeze setting.expire).toNat

/-- The clock does not go back, a packet is delivered after it was sent and within the
freeze time, clients do not answer in the master's place, and the local time has not
fallen back behind the one of the cut-off when labels are recycled. -/
def Allowed (setting : Setting) (system : System) : Action → Prop
  | .tick now => system.now.toInt ≤ now.toInt
  | .client _ message _ => message.type ≠ responseLabel
  | .reply packet _ => packet ∈ system.replies ∧ OnTime setting system.now packet
  | .request packet _ => packet ∈ system.requests ∧ OnTime setting system.now packet
  | .timeout =>
    let cutoff := system.now.toInt - (setting.expire.toNat + (Master.freeze setting.expire).toNat : Nat)
    Master.NotBefore setting.zone cutoff cutoff system.now.toInt
  | _ => True

instance (setting : Setting) (system : System) : (action : Action) → Decidable (Allowed setting system action)
  | .tick _ => inferInstanceAs (Decidable (_ ≤ _))
  | .client _ _ _ => inferInstanceAs (Decidable (_ ≠ _))
  | .reply _ _ | .request _ _ => inferInstanceAs (Decidable (_ ∧ _ ≤ _))
  | .start _ _ | .crash _ | .wake _ | .silence _ => inferInstanceAs (Decidable True)
  | .timeout => inferInstanceAs (Decidable (Master.NotBefore _ _ _ _))

/-- A master that has just started over any tables, and no agent running. -/
structure Initial (system : System) : Prop where
  infos : system.master.infos = .empty
  replies : system.replies = []
  requests : system.requests = []
  down : ∀ ip, (system.agents ip).agent = none

def Holds (setting : Setting) (system : System) (ip : UInt32) (label : UInt32) : Prop :=
  ∃ agent, (system.agents ip).agent = some agent ∧ agent.seqBlock.label = label ∧ ValidLabel label.toNat ∧
    system.now.toInt - agent.seqBlock.timestamp.toInt64.toInt ≤ setting.expire.toNat

def Exclusive (setting : Setting) (system : System) : Prop :=
  ∀ ip other label, Holds setting system ip label → Holds setting system other label → ip = other

/-- The row has the local time of `since`, or of a later time that has passed. -/
def Stamped (setting : Setting) (now since : TimeT) (row : Master.Online) : Prop :=
  ∃ time, since.toInt ≤ time ∧ time ≤ now.toInt ∧ setting.zone time ≤ row.time

def Backed (setting : Setting) (now : TimeT) (master : Master.State) (ip label : UInt32)
    (since : TimeT) : Prop :=
  ∃ row ∈ master.tables.online, row.label.toUInt32 = label ∧ row.ip = ip ∧
    (Stamped setting now since row ∨
      ∃ info ∈ master.infos, info.label = row.label ∧ since.toInt ≤ info.leaseTime.toInt)

variable {setting : Setting} {now : TimeT} {master : Master.State} {ip : UInt32} {since : TimeT}
  {label : UInt32}

theorem Backed.exclusive {other : UInt32} {since' : TimeT} (here : Backed setting now master ip label since)
    (there : Backed setting now master other label since') : ip = other := by
  obtain ⟨row,mem,rfl,rfl,_⟩ := here
  obtain ⟨row',member',same,rfl,_⟩ := there
  have key : row'.label = row.label := by
    apply UInt8.toNat_inj.mp
    have := congrArg UInt32.toNat same
    rwa [UInt8.toNat_toUInt32] at this
  rw [Table.eq_of_key member' mem key]

def Pending (now : TimeT) (master : Master.State) : Prop :=
  ∀ info ∈ master.infos, info.leaseTime.toInt ≤ now.toInt ∧
    ∃ row ∈ master.tables.online, row.label = info.label ∧ row.ip = info.ip

def Fresh (setting : Setting) (now since : TimeT) : Prop :=
  now.toInt ≤ since.toInt + (Master.freeze setting.expire).toNat + setting.expire.toNat

/-- A process whose clock has not run ahead, and whose lease is backed while it lasts. -/
def Secured (setting : Setting) (now : TimeT) (master : Master.State) (ip : UInt32)
    (agent : Agent.State) : Prop :=
  agent.currentTime.toInt ≤ now.toInt ∧
    (ValidLabel agent.seqBlock.label.toNat →
      now.toInt - agent.seqBlock.timestamp.toInt64.toInt ≤ setting.expire.toNat →
      ∃ since : TimeT, agent.seqBlock.timestamp.toInt64.toInt ≤
        since.toInt + (Master.freeze setting.expire).toNat ∧
        Backed setting now master ip agent.seqBlock.label since)

structure Safe (setting : Setting) (system : System) : Prop where
  pending : Pending system.now system.master
  flying : ∀ packet ∈ system.replies, packet.message.type = responseLabel →
    Fresh setting system.now packet.sent →
    Backed setting system.now system.master packet.ip packet.message.value1 packet.sent
  secured : ∀ ip agent, (system.agents ip).agent = some agent →
    Secured setting system.now system.master ip agent

variable {system : System}

theorem Safe.exclusive (safe : Safe setting system) : Exclusive setting system := by
  rintro ip other label ⟨agent,running,rfl,valid,live⟩ ⟨agent',running',same,valid',live'⟩
  obtain ⟨since,_,backed⟩ := (safe.secured ip agent running).2 valid live
  obtain ⟨since',_,backed'⟩ := (safe.secured other agent' running').2 (same ▸ valid') live'
  rw [same] at backed'
  exact backed.exclusive backed'

theorem initial_safe (setting : Setting) (system : System) (initial : Initial system) :
    Safe setting system := by
  refine ⟨?_,?_,?_⟩
  · intro info mem
    rw [initial.infos] at mem
    exact absurd mem (Table.not_mem_empty info)
  · intro packet mem
    rw [initial.replies] at mem
    cases mem
  · intro ip agent running
    rw [initial.down ip] at running
    cases running

theorem Backed.later {before : TimeT} (forward : before.toInt ≤ now.toInt)
    (backed : Backed setting before master ip label since) : Backed setting now master ip label since := by
  obtain ⟨row,mem,sameLabel,sameIp,⟨time,young,past,stamp⟩ | pending⟩ := backed
  · exact ⟨row,mem,sameLabel,sameIp,.inl ⟨time,young,past.trans forward,stamp⟩⟩
  · exact ⟨row,mem,sameLabel,sameIp,.inr pending⟩

theorem tick_safe (safe : Safe setting system)
    (forward : system.now.toInt ≤ now.toInt) : Safe setting {system with now := now} := by
  refine ⟨?_,?_,?_⟩
  · intro info mem
    obtain ⟨time,row⟩ := safe.pending info mem
    exact ⟨time.trans forward,row⟩
  · intro packet mem type fresh
    exact (safe.flying packet mem type (forward.trans fresh)).later forward
  · intro ip agent running
    obtain ⟨clock,backed⟩ := safe.secured ip agent running
    refine ⟨clock.trans forward,fun valid live => ?_⟩
    dsimp only at live
    obtain ⟨since,sent,row⟩ := backed valid (by omega)
    exact ⟨since,sent,row.later forward⟩

theorem master_safe (safe : Safe setting system) {next : Master.State} (pending : Pending system.now next)
    (backs : ∀ ip label since, Fresh setting system.now since →
      Backed setting system.now system.master ip label since →
        Backed setting system.now next ip label since) : Safe setting {system with master := next} := by
  refine ⟨pending,?_,?_⟩
  · intro packet mem type fresh
    exact backs _ _ _ fresh (safe.flying packet mem type fresh)
  · intro ip agent running
    obtain ⟨clock,backed⟩ := safe.secured ip agent running
    refine ⟨clock,fun valid live => ?_⟩
    obtain ⟨since,sent,row⟩ := backed valid live
    dsimp only at live
    refine ⟨since,sent,backs _ _ _ ?_ row⟩
    unfold Fresh
    omega

variable {before after : Master.State}

theorem Backed.rows (rows : ∀ row ∈ before.tables.online, row ∈ after.tables.online)
    (infos : ∀ info ∈ before.infos, ∃ entry ∈ after.infos,
      entry.label = info.label ∧ info.leaseTime.toInt ≤ entry.leaseTime.toInt)
    (backed : Backed setting now before ip label since) : Backed setting now after ip label since := by
  obtain ⟨row,mem,sameLabel,sameIp,time | ⟨info,listed,key,time⟩⟩ := backed
  · exact ⟨row,rows row mem,sameLabel,sameIp,Or.inl time⟩
  · obtain ⟨entry,entered,key',later⟩ := infos info listed
    exact ⟨row,rows row mem,sameLabel,sameIp,Or.inr ⟨entry,entered,key'.trans key,time.trans later⟩⟩

theorem Pending.rows (pending : Pending now before) (infos : after.infos = before.infos)
    (rows : ∀ row ∈ before.tables.online, row ∈ after.tables.online) : Pending now after := by
  intro info mem
  rw [infos] at mem
  obtain ⟨time,row,found,key⟩ := pending info mem
  exact ⟨time,row,rows row found,key⟩

theorem remember_pending (pending : Pending now master) (label : UInt8)
    (ip : UInt32) (tables : Master.Tables) (rows : ∀ row ∈ master.tables.online, row ∈ tables.online)
    (row : ∃ row ∈ tables.online, row.label = label ∧ row.ip = ip) :
    Pending now ⟨Master.remember ⟨label,ip,now⟩ master.infos,tables⟩ := by
  intro info mem
  rcases Master.mem_remember mem with rfl | before | ⟨old,before,key,rfl⟩
  · exact ⟨Int.le_refl _,row⟩
  · obtain ⟨time,row,found,key⟩ := pending info before
    exact ⟨time,row,rows row found,key⟩
  · obtain ⟨_,row,found,key⟩ := pending old before
    exact ⟨Int.le_refl _,row,rows row found,key⟩

theorem reply_safe (safe : Safe setting system) {packet : Packet}
    (backed : packet.message.type = responseLabel →
      Backed setting system.now system.master packet.ip packet.message.value1 packet.sent) :
    Safe setting {system with replies := system.replies ++ [packet]} := by
  refine ⟨safe.pending,?_,safe.secured⟩
  intro other mem type fresh
  rcases List.mem_append.mp mem with before | last
  · exact safe.flying other before type fresh
  · rw [List.mem_singleton.mp last] at type ⊢
    exact backed type

theorem request_safe {packet : Packet} {choice : UInt8}
    (safe : Safe setting system) : Safe setting (step setting system (.request packet choice)).1 := by
  have got := Master.receive_received setting.zone setting.expire system.now packet.ip packet.message choice
    Master.executed system.master
  simp only [step]
  generalize Master.receive setting.zone setting.expire system.now packet.ip packet.message choice
    Master.executed
    system.master = next at got
  obtain ⟨next,reply⟩ := next
  have unchanged : next.infos = system.master.infos →
    (∀ row ∈ system.master.tables.online, row ∈ next.tables.online) →
      Safe setting {system with master := next} := by
    intro infos rows
    refine master_safe safe (safe.pending.rows infos rows) ?_
    intro ip label since _ backed
    refine backed.rows rows ?_
    intro info mem
    rw [infos]
    exact ⟨info,mem,rfl,Int.le_refl _⟩
  cases got with
  | silent next infos rows =>
    simp only [System.serve,Option.map_none,Option.toList_none,List.append_nil]
    exact unchanged infos rows
  | error next errcode infos rows =>
    refine reply_safe (unchanged infos rows) ?_
    intro bad
    have bad : responseError = responseLabel := bad
    exact absurd bad (by decide)
  | granted label tables rows row =>
    have granted : Safe setting {system with
        master := ⟨Master.remember ⟨label,packet.ip,system.now⟩ system.master.infos,tables⟩} := by
      refine master_safe safe (remember_pending safe.pending label packet.ip tables rows row) ?_
      intro ip held since _ backed
      refine backed.rows rows ?_
      intro info mem
      exact Master.remember_later _ info _ mem (safe.pending info mem).1
    refine reply_safe granted ?_
    intro _
    obtain ⟨found,mem,key,ip⟩ := row
    obtain ⟨entry,listed,label',time⟩ :=
      Master.remember_entry ⟨label,packet.ip,system.now⟩ system.master.infos
    refine ⟨found,mem,by rw [key]; rfl,ip,Or.inr ⟨entry,listed,label'.trans key.symm,?_⟩⟩
    rw [time]

theorem Fresh.cutoff_le (fresh : Fresh setting now since) :
    now.toInt - (setting.expire.toNat + (Master.freeze setting.expire).toNat : Nat) ≤ since.toInt := by
  unfold Fresh at fresh
  omega

theorem timeout_safe (safe : Safe setting system) (allowed : Allowed setting system .timeout) :
    Safe setting (step setting system .timeout).1 := by
  simp only [step,Master.onTimeout,Master.renew_executed]
  apply master_safe safe
  · intro info bad
    exact absurd bad (Table.not_mem_empty info)
  · intro ip label since fresh backed
    obtain ⟨row,mem,sameLabel,sameIp,young⟩ := backed
    obtain ⟨next,found,key,ip',later,renewed⟩ :=
      Master.renewRows_later setting.zone system.master.infos.rows 0 system.master.tables.online row mem
    have stamped : Stamped setting system.now since next := by
      rcases young with ⟨time,young,past,stamp⟩ | ⟨info,listed,key',young⟩
      · exact ⟨time,young,past,stamp.trans later⟩
      · obtain ⟨past,owner,there,ownerLabel,ownerIp⟩ := safe.pending info listed
        rw [Table.eq_of_key there mem (ownerLabel.trans key')] at ownerIp
        exact ⟨_,young,past,renewed info listed key' ownerIp.symm⟩
    refine ⟨next,?_,by rw [key]; exact sameLabel,ip'.trans sameIp,Or.inl stamped⟩
    obtain ⟨time,young,past,stamp⟩ := stamped
    have ordered := allowed time (fresh.cutoff_le.trans young) past
    rw [← Master.getExpireTime_eq setting.expire system.now setting.fits] at ordered
    exact Master.recycleRows_keeps _ _ _ next found (Master.not_selected found (ordered.trans stamp))

theorem node_safe (safe : Safe setting system) {next : Process × Option MessageHead}
    (secured : ∀ agent, next.1.agent = some agent → Secured setting system.now system.master ip agent) :
    Safe setting (system.node ip next) := by
  refine ⟨safe.pending,safe.flying,?_⟩
  intro other agent running
  by_cases same : other = ip
  · subst same
    simp only [System.node,Function.update_self] at running
    exact secured agent running
  · simp only [System.node,Function.update_of_ne same] at running
    exact safe.secured other agent running

variable {before after : Agent.State}

theorem Secured.kept (secured : Secured setting now master ip before)
    (label : after.seqBlock.label = before.seqBlock.label)
    (time : after.seqBlock.timestamp = before.seqBlock.timestamp)
    (clock : after.currentTime.toInt ≤ now.toInt) : Secured setting now master ip after := by
  unfold Secured
  rw [label,time]
  exact ⟨clock,secured.2⟩

variable {agent : Agent.State}

theorem secured_unlabelled (clock : agent.currentTime.toInt ≤ now.toInt) (label : agent.seqBlock.label = 0) :
    Secured setting now master ip agent := by
  refine ⟨clock,fun valid => ?_⟩
  rw [label] at valid
  exact absurd valid (by decide)

theorem secured_granted (clock : agent.currentTime.toInt ≤ now.toInt)
    (stamped : agent.seqBlock.timestamp = agent.currentTime.toUInt64)
    (onTime : now.toInt ≤ since.toInt + (Master.freeze setting.expire).toNat)
    (backed : Backed setting now master ip agent.seqBlock.label since) :
    Secured setting now master ip agent := by
  refine ⟨clock,fun _ _ => ⟨since,?_,backed⟩⟩
  rw [stamped,Int64.toInt64_toUInt64]
  omega

/-- Everything that can happen to the lease of a process that goes on as another one. -/
inductive Changed (message : Option MessageHead) (before after : Agent.State) : Prop
  | kept (label : after.seqBlock.label = before.seqBlock.label)
    (timestamp : after.seqBlock.timestamp = before.seqBlock.timestamp)
  | lost (label : after.seqBlock.label = 0)
  | granted (reply : MessageHead) (heard : message = some reply) (type : reply.type = responseLabel)
    (label : after.seqBlock.label = reply.value1) (stamped : after.seqBlock.timestamp =
      before.currentTime.toUInt64)

theorem changed_secured
    {msg : Option MessageHead} (secured : Secured setting now master ip before)
    (clock : after.currentTime = before.currentTime) (changed : Changed msg before after)
    (backed : ∀ reply, msg = some reply → reply.type = responseLabel →
      ∃ since : TimeT, now.toInt ≤ since.toInt + (Master.freeze setting.expire).toNat ∧
        Backed setting now master ip reply.value1 since) : Secured setting now master ip after := by
  have early : after.currentTime.toInt ≤ now.toInt := by
    rw [clock]
    exact secured.1
  cases changed with
  | kept label time => exact secured.kept label time early
  | lost label => exact secured_unlabelled early label
  | granted reply heard type label stamped =>
    obtain ⟨since,onTime,row⟩ := backed reply heard type
    exact secured_granted early (by rw [stamped,clock]) onTime (by rw [label]; exact row)

variable {msg : MessageHead} {next : Agent.State}

theorem receive_changed {localtime : TimeT → Option Tm} {sent : Agent.Sent}
    (got : Agent.receive config localtime msg written agent = some (next,sent)) :
    next.currentTime = agent.currentTime ∧ Changed (some msg) agent next := by
  cases Agent.receive_received config localtime msg written agent next sent got with
  | label type => exact ⟨rfl,.kept rfl rfl⟩
  | uniqId next res type ready =>
    have same := Agent.prepareResponseGetUniqId_sameLease _ _ _ _ _ _ _ ready
    exact ⟨same.currentTime,.kept same.label same.timestamp⟩
  | uniqSeq type =>
    have same := Agent.prepareResponseGetUniqSeq_sameLease config msg written
        {agent with requestBuffer := msg}
    exact ⟨same.currentTime,.kept same.label same.timestamp⟩
  | labelAndSeq type =>
    have same := Agent.prepareResponseGetLabelAndSeq_sameLease config msg written
        {agent with requestBuffer := msg}
    exact ⟨same.currentTime,.kept same.label same.timestamp⟩
  | error type checked =>
    unfold Agent.onResponseError Agent.rentLabel
    split
    · split <;> exact ⟨rfl,.lost rfl⟩
    · exact ⟨rfl,.kept rfl rfl⟩
  | leased type checked =>
    refine ⟨?_,.granted msg rfl type (Agent.onResponseLabel_label _ _ _) ?_⟩
    · unfold Agent.onResponseLabel
      dsimp only
      split_ifs
      · cases written <;> rfl
      · rfl
    · unfold Agent.onResponseLabel
      dsimp only
      split_ifs
      · cases written <;> rfl
      · rfl
  | dropped type illegal | unknown => exact ⟨rfl,.kept rfl rfl⟩

theorem restoreStore_lease (label : UInt32) (written : Bool) (agent : Agent.State) :
    (Agent.restoreStore config label written agent).1.seqBlock.label = label ∧
    (Agent.restoreStore config label written agent).1.seqBlock.timestamp = agent.seqBlock.timestamp ∧
    (Agent.restoreStore config label written agent).1.currentTime = agent.currentTime := by
  cases written <;> exact ⟨rfl,rfl,rfl⟩

theorem restored_agent {res : Agent.State × Bool}
    (running : (restored res).agent = some agent) : agent = res.1 := by
  obtain ⟨found,ok⟩ := res
  cases ok with
  | false => cases running
  | true => exact (Option.some.inj running).symm

theorem rented_agent (label : UInt32) (written : Bool) (agent next : Agent.State)
    (running : (restored (Agent.restoreRented config label written agent)).agent = some next) :
    next = (Agent.restoreStore config label written agent).1 := by
  unfold Agent.restoreRented at running
  split at running
  · exact restored_agent running
  · cases running

theorem await_changed {rounds : Nat} {msg : Option MessageHead}
    {agent next : Agent.State} (running : (await config rounds msg written agent).1.agent = some next) :
    next.currentTime = agent.currentTime ∧ Changed msg agent next := by
  unfold await Agent.receiveLabel at running
  cases msg with
  | none => cases running
  | some reply =>
    dsimp only at running
    split_ifs at running with error other label pos
    · cases running
    · cases rounds with
      | zero => cases running
      | succ rounds =>
        cases running
        exact ⟨rfl,.lost rfl⟩
    · have same := rented_agent config reply.value1 written _ next running
      obtain ⟨held,stamped,clock⟩ := restoreStore_lease config reply.value1 written
        {agent with seqBlock := {agent.seqBlock with timestamp := agent.currentTime.toUInt64}}
      rw [same]
      exact ⟨clock,.granted reply rfl label.1 held stamped⟩
    · cases running
    · cases running

theorem start_secured {file : SeqFile}
    (running : (start (setting.config ip) now written file).1.agent = some agent) :
    Secured setting now master ip agent := by
  unfold start at running
  rcases Agent.restoreRead_masters (setting.config ip) now file (setting.masters ip) with
    failed | ⟨found,rent,clock,free⟩ | ⟨found,known,clock,_⟩
  · rw [failed] at running
    cases running
  · rw [rent] at running
    cases running
    have early : found.currentTime.toInt ≤ now.toInt := by rw [clock]
    rcases free with unlabelled | expired
    · exact secured_unlabelled early unlabelled
    · refine ⟨early,fun _ live => ?_⟩
      simp only [labelExpired,setting.masters,Bool.true_and,decide_eq_true_eq,setting.same] at expired
      dsimp only at live
      omega
  · rw [known] at running
    have same := restored_agent running
    obtain ⟨held,_,clock'⟩ := restoreStore_lease (setting.config ip) 0 written found
    rw [same]
    exact secured_unlabelled (by rw [clock',clock]) held

theorem hear_secured {process : Process}
    (secured : ∀ agent, process.agent = some agent → Secured setting now master ip agent)
    (backed : msg.type = responseLabel →
      ∃ since : TimeT, now.toInt ≤ since.toInt + (Master.freeze setting.expire).toNat ∧
        Backed setting now master ip msg.value1 since)
    (running : (hear setting ip msg written process).1.agent = some next) :
    Secured setting now master ip next := by
  have backed : ∀ reply, some msg = some reply → reply.type = responseLabel →
      ∃ since : TimeT, now.toInt ≤ since.toInt + (Master.freeze setting.expire).toNat ∧
        Backed setting now master ip reply.value1 since := by
    intro reply same type
    cases same
    exact backed type
  cases process with
  | down file => cases running
  | waiting rounds agent =>
    obtain ⟨clock,changed⟩ := await_changed (setting.config ip) running
    exact changed_secured (secured agent rfl) clock changed backed
  | up agent =>
    cases got : Agent.receive (setting.config ip) setting.localtime msg written agent with
    | none =>
      simp only [hear,got] at running
      cases running
    | some res =>
      simp only [hear,got] at running
      cases running
      obtain ⟨clock,changed⟩ := receive_changed _ got
      exact changed_secured (secured agent rfl) clock changed backed

theorem wake_safe (safe : Safe setting system) : Safe setting (step setting system (.wake ip)).1 := by
  cases running : system.agents ip with
  | down file | waiting rounds agent =>
    simp only [step,running]
    exact safe
  | up agent =>
    simp only [step,running]
    apply node_safe safe
    intro next same
    cases same
    have secured := safe.secured ip agent (by rw [running]; rfl)
    have kept := Agent.wake_sameLease (setting.config ip) system.now agent
    exact secured.kept kept.label kept.timestamp (by rw [kept.currentTime])

theorem silence_safe (safe : Safe setting system) : Safe setting (step setting system (.silence ip)).1 := by
  cases running : system.agents ip with
  | down file | up agent =>
    simp only [step,running]
    exact safe
  | waiting rounds agent =>
    simp only [step,running]
    apply node_safe safe
    intro next same
    cases same

theorem step_safe (setting : Setting) (system : System) (act : Action) (safe : Safe setting system)
    (allowed : Allowed setting system act) : Safe setting (step setting system act).1 := by
  cases act with
  | tick now => exact tick_safe safe allowed
  | start ip written =>
    apply node_safe safe
    intro agent running
    exact start_secured running
  | crash ip =>
    apply node_safe safe
    intro agent running
    cases running
  | wake ip => exact wake_safe safe
  | silence ip => exact silence_safe safe
  | client ip msg written =>
    apply node_safe safe
    intro agent running
    exact hear_secured (safe.secured ip)
      (fun type => absurd type allowed) running
  | reply packet written =>
    obtain ⟨sent,onTime⟩ := allowed
    apply node_safe safe
    intro agent running
    refine hear_secured
      (safe.secured packet.ip) (fun type => ⟨packet.sent,onTime,?_⟩) running
    apply safe.flying packet sent type
    unfold OnTime at onTime
    unfold Fresh
    omega
  | request packet choice => exact request_safe safe
  | timeout => exact timeout_safe safe allowed

/-- At no moment of a run do two agents hold the same label with an unexpired lease. -/
theorem lease_exclusive (setting : Setting) (system : System) (actions : List Action)
    (initial : Initial system)
    (allowed : Run.Meets (Allowed setting) (step setting) system actions) :
    Exclusive setting (Run.final (step setting) system actions) := by
  have safe := Run.invariant (Safe setting) (step_safe setting) system actions
    (initial_safe setting system initial)
    allowed
  exact safe.exclusive

/-- An agent with an unexpired lease is the one whose row the master has for the label. -/
theorem held_recorded (setting : Setting) (system : System) (actions : List Action) (initial : Initial system)
    (allowed : Run.Meets (Allowed setting) (step setting) system actions) (ip label : UInt32)
    (holds : Holds setting (Run.final (step setting) system actions) ip label) :
    ∃ row ∈ (Run.final (step setting) system actions).master.tables.online, row.label.toUInt32 =
      label ∧ row.ip = ip := by
  have safe := Run.invariant (Safe setting) (step_safe setting) _ _
    (initial_safe setting system initial) allowed
  obtain ⟨agent,running,rfl,valid,live⟩ := holds
  obtain ⟨-,-,row,mem,named,owned,-⟩ := (safe.secured ip agent running).2 valid live
  exact ⟨row,mem,named,owned⟩

def sampleSetting : Setting where
  expire := 100
  zone := id
  config := fun _ => Agent.sampleMaster
  localtime := fun _ => none
  masters := fun _ => rfl
  same := fun _ => rfl
  fits := by decide

def sampleSystem : System where
  now := 1000
  master := ⟨.empty,⟨⟨[1,2],by decide⟩,.empty⟩⟩
  agents := fun _ => .down .empty
  requests := []
  replies := []

def sampleRent (sent : TimeT) (ip : UInt32) : Packet := ⟨sent,ip,(Agent.rentRequest (.start .empty sent)).2⟩

def sampleGrant (sent : TimeT) (ip label : UInt32) : Packet :=
  ⟨sent,ip,response responseLabel (sampleRent sent ip).message label 0 0⟩

def sampleActions : List Action :=
  [.start 7 true,.start 8 true,.request (sampleRent 1000 8) 2,.request (sampleRent 1000 7) 0,
    .reply (sampleGrant 1000 8 2) true,.tick 1090,.timeout,.reply (sampleGrant 1000 7 1) true]

theorem lease_exclusive_two :
    Holds sampleSetting (Run.final (step sampleSetting) sampleSystem sampleActions) 7 1 ∧
    Holds sampleSetting (Run.final (step sampleSetting) sampleSystem sampleActions) 8 2 ∧
    Exclusive sampleSetting (Run.final (step sampleSetting) sampleSystem sampleActions) :=
  ⟨⟨_,rfl,by decide,by decide,by decide⟩,⟨_,rfl,by decide,by decide,by decide⟩,
    lease_exclusive sampleSetting sampleSystem sampleActions ⟨rfl,rfl,rfl,fun _ => rfl⟩ (by decide +kernel)⟩

theorem held_recorded_first :
    ∃ row ∈ (Run.final (step sampleSetting) sampleSystem sampleActions).master.tables.online,
    row.label.toUInt32 = 1 ∧ row.ip = 7 :=
  held_recorded sampleSetting sampleSystem sampleActions ⟨rfl,rfl,rfl,fun _ => rfl⟩ (by decide +kernel) 7 1
    ⟨_,rfl,by decide,by decide,by decide⟩

def sampleNewYork : Setting := {sampleSetting with zone := Master.newYork}

def sampleNight : System := {sampleSystem with now := 1793512830}

/-- A label that is rented behind the fall of the local time is recycled half a minute later. -/
def sampleFall : List Action :=
  [.start 7 true,.request (sampleRent 1793512830 7) 1,.reply (sampleGrant 1793512830 7 1) true,
    .tick 1793512860,
    .timeout,.start 8 true,.request (sampleRent 1793512860 8) 1,.reply (sampleGrant 1793512860 8 1) true]

/-- The run has all that `Allowed` asks for but the order of the local times. -/
theorem lease_shared : Run.Meets (Allowed sampleSetting) (step sampleNewYork) sampleNight sampleFall ∧
    ¬ Exclusive sampleNewYork (Run.final (step sampleNewYork) sampleNight sampleFall) := by
  refine ⟨by decide +kernel,fun exclusive => ?_⟩
  have same := exclusive 7 8 1 ⟨_,rfl,by decide,by decide,by decide⟩ ⟨_,rfl,by decide,by decide,by decide⟩
  cases same

end Mooon.UniqId.Lease

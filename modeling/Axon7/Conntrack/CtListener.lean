import Axon7.Conntrack.NatCache
import Axon7.Lib.SlotSet

/-!
# The listener of connections

`IPACM_ConntrackListener`, in the mode without passthrough: what it knows of the
WAN, of the clients and of the interfaces, and how it reads a connection into an
entry for `NatApp`. Which connection an entry is from is noted beside it; nothing
reads that.
-/

namespace Axon7.Conntrack

open Axon7.Lib

/-- `nf_conntrack`, as far as it stays the same while the connection lives. -/
structure Conn where
  origIpv4Src : Ip
  origIpv4Dst : Ip
  origPortSrc : Port
  origPortDst : Port
  replIpv4Src : Ip
  replPortSrc : Port
  replPortDst : Port
  l4proto : BitVec 8
  srcNat : Bool
  dstNat : Bool
deriving DecidableEq

/-- `nf_conntrack_msg_type`. -/
inductive MsgType
  | new
  | update
  | destroy
deriving DecidableEq

/-- `ATTR_TCP_STATE`, as far as it is told apart. -/
inductive TcpState
  | established
  | finWait
  | other
deriving DecidableEq

/-- A message about a connection. -/
structure CtMessage where
  ct : Conn
  type : MsgType
  tcpState : TcpState

/-- `IPPROTO_TCP`. -/
def ipprotoTcp : BitVec 8 := 6

/-- `IPPROTO_UDP`. -/
def ipprotoUdp : BitVec 8 := 17

namespace CtMessage

/-- The message is taken to say that the connection is there. -/
def opens (msg : CtMessage) : Bool :=
  if msg.ct.l4proto = ipprotoTcp then msg.tcpState = .established
  else msg.type = .new

/-- The message says that the connection is over. -/
def closes (msg : CtMessage) : Bool :=
  msg.type = .destroy ||
    (msg.ct.l4proto = ipprotoTcp && msg.tcpState = .finWait)

end CtMessage

/-- `IPS_DST_NAT` or `IPS_SRC_NAT`. -/
inductive NatStatus
  | dstNat
  | srcNat

namespace Conn

/-- The first part of `ProcessTCPorUDPMsg`. A connection without a flag has one
if it starts or ends at the WAN address. -/
def natStatus (ct : Conn) (wanIpaddr : Ip) : Option NatStatus :=
  if ct.dstNat then some .dstNat
  else if ct.srcNat then some .srcNat
  else if ct.origIpv4Src = 0 then none
  else if ct.origIpv4Dst = 0 then none
  else if ct.origIpv4Src = wanIpaddr then some .srcNat
  else if ct.origIpv4Dst = wanIpaddr then some .dstNat
  else none

/-- `PopulateTCPorUDPEntry`, and the public address. -/
def populate (ct : Conn) (status : NatStatus) (wanIpaddr : Ip) : TempEntry :=
  match status with
  | .dstNat =>
    { TempEntry.empty with
      targetIp := ct.origIpv4Src
      targetPort := ct.origPortSrc
      publicPort := ct.origPortDst
      privateIp := ct.replIpv4Src
      privatePort := ct.replPortSrc
      protocol := ct.l4proto
      publicIp := wanIpaddr }
  | .srcNat =>
    { TempEntry.empty with
      targetIp := ct.origIpv4Dst
      targetPort := ct.origPortDst
      publicPort := ct.replPortDst
      privateIp := ct.origIpv4Src
      privatePort := ct.origPortSrc
      protocol := ct.l4proto
      publicIp := wanIpaddr }

end Conn

/-- The rule that stands for a connection of the device itself or of an interface
without NAT. -/
def TempEntry.dummy (rule : TempEntry) : TempEntry :=
  { rule with privateIp := rule.publicIp, privatePort := rule.publicPort }

/-! ## Which connection an entry is from -/

/-- `NatApp`, and the connections that its entries are from. -/
structure NatInst extends NatCache where
  cacheConn : Nat → Option Conn
  tempConn : Nat → Option Conn

namespace NatInst

/-- There is an entry at the place. -/
def cached (cache : List NatTableEntry) (cnt : Nat) : Bool :=
  cache[cnt]?.any fun entry => !entry.isFree

/-- There is a temporary entry at the place, which two fields tell. -/
def kept (temp : List TempEntry) (cnt : Nat) : Bool :=
  temp[cnt]?.any fun entry => entry.privateIp ≠ 0 || entry.targetIp ≠ 0

/-- The connections at places of which some are taken, where others were: what
is new is from the connection. -/
def mark (before after : Nat → Bool) (conns : Nat → Option Conn)
    (conn : Option Conn) (cnt : Nat) : Option Conn :=
  if after cnt then if before cnt then conns cnt else conn else none

/-- What a call for a connection makes of `NatApp`. -/
def follow (n : NatInst) (conn : Option Conn) (c : NatCache) : NatInst where
  toNatCache := c
  cacheConn := mark (cached n.cache) (cached c.cache) n.cacheConn conn
  tempConn := mark (kept n.temp) (kept c.temp) n.tempConn conn

/-- `FlushTempEntries`: what a turn adds is from the connection of the temporary
entry. -/
def flushTempEntries (n : NatInst) (ipAddr : Ip) (isAdd isDummy : Bool)
    (reply : Nat → Option Nat) : NatInst :=
  (List.range n.temp.length).foldl
    (fun n cnt => n.follow (n.tempConn cnt)
      (NatCache.flushTempEntry ipAddr isAdd isDummy reply n.toNatCache cnt)) n

end NatInst

/-! ## The listener -/

/-- `IPACM_ConntrackListener`, and the private subnets of `IPACM_Config`: the
address and the mask of each. -/
structure CtListener where
  wanUp : Bool
  wanIpaddr : Ip
  isStaMode : Bool
  natIfaceIpv4Addr : List Ip
  nonnatIfaceIpv4Addr : List Ip
  staClntIpv4Addr : List Ip
  staClntCnt : Int
  privateSubnetTable : List (Ip × Ip)
  natInst : NatInst

/-- `ipacm_event_data_all`, and what `CheckNatIface` finds out about the interface
if it gets that far: whether it is one with NAT. -/
structure IfaceAddr where
  ipv4Addr : Ip
  isV4 : Bool
  natIface : Option Bool

/-- What the listener is called for, with what the driver answers where it is
asked. -/
inductive CtEvent
  | wanUp (ipv4Addr : Ip) (isSta : Bool) (reply : NewTblReply)
  | wanDown (ipv4Addr : Ip)
  | message (msg : CtMessage) (reply : Option Nat)
  | ifaceAddrAdd (data : IfaceAddr) (reply : Nat → Option Nat)
  | ifaceAddrDel (ipv4Addr : Ip)
  | neighIpAddrAdd (data : IfaceAddr) (resumed reply : Nat → Option Nat)
  | neighIpAddrDel (ipv4Addr : Ip)
  | staClientAdd (clntIpAddr : Ip) (reply : Nat → Option Nat)
  | staClientDel (clntIpAddr : Ip)

namespace CtListener

/-- `MAX_IFACE_ADDRESS`. -/
def maxIfaceAddress : Nat := 50

/-- `MAX_STA_CLNT_IFACES`. -/
def maxStaClntIfaces : Nat := 10

/-- `STA_CLNT_SUBNET_MASK`. -/
def staClntSubnetMask : Ip := 0xFFFFFF00

/-- The constructor. The WAN address and the mode are left as the memory has
them. -/
def new (wanIpaddr : Ip) (isStaMode : Bool) (privateSubnetTable : List (Ip × Ip))
    (c : NatCache) : CtListener where
  wanUp := false
  wanIpaddr := wanIpaddr
  isStaMode := isStaMode
  natIfaceIpv4Addr := List.replicate maxIfaceAddress 0
  nonnatIfaceIpv4Addr := List.replicate maxIfaceAddress 0
  staClntIpv4Addr := List.replicate maxStaClntIfaces 0
  staClntCnt := 0
  privateSubnetTable := privateSubnetTable
  natInst :=
    { toNatCache := c
      cacheConn := fun _ => none
      tempConn := fun _ => none }

variable (s : CtListener)

/-- What a call makes of `NatApp`, for a connection. -/
def call (conn : Option Conn) (c : NatCache) : CtListener :=
  { s with natInst := s.natInst.follow conn c }

/-! ### The WAN -/

/-- `TriggerWANDown`. A table that the driver has it deletes. -/
def triggerWANDown (wanAddr : Ip) : CtListener :=
  match s.natInst.deleteTable wanAddr true with
  | (false, c) => s.call none c
  | (true, c) => { s.call none c with wanUp := false, wanIpaddr := 0 }

/-- The last part of `TriggerWANUp`: what `AddTable` returns is not looked
at. -/
def setWanUp (ipv4Addr : Ip) (isSta : Bool) (reply : NewTblReply) : CtListener :=
  { s.call none (s.natInst.addTable ipv4Addr reply).2 with
    wanUp := true
    isStaMode := isSta
    wanIpaddr := ipv4Addr }

/-- `TriggerWANUp`. -/
def triggerWANUp (ipv4Addr : Ip) (isSta : Bool) (reply : NewTblReply) :
    CtListener :=
  if ipv4Addr = 0 then s
  else if s.wanUp then
    if s.wanIpaddr ≠ ipv4Addr then
      (s.triggerWANDown s.wanIpaddr).setWanUp ipv4Addr isSta reply
    else s
  else s.setWanUp ipv4Addr isSta reply

/-! ### The interfaces and the clients -/

/-- `FlushTempEntries`. -/
def flush (ipAddr : Ip) (isAdd isDummy : Bool) (reply : Nat → Option Nat) :
    CtListener :=
  { s with natInst := s.natInst.flushTempEntries ipAddr isAdd isDummy reply }

/-- `CheckNatIface`: whether the interface is one with NAT, if that can be
told. -/
def checkNatIface (data : IfaceAddr) : Option Bool :=
  if data.ipv4Addr = 0 || !data.isV4 then none else data.natIface

/-- `HandleNonNatIPAddr` for an address that is added. -/
def handleNonNatIPAddrAdd (data : IfaceAddr) (reply : Nat → Option Nat) :
    CtListener :=
  if s.isStaMode then s
  else if checkNatIface data = some false then
    match s.nonnatIfaceIpv4Addr.findIdx? fun ip => ip = 0 with
    | none => s
    | some cnt =>
      { s with
        nonnatIfaceIpv4Addr :=
          s.nonnatIfaceIpv4Addr.set cnt data.ipv4Addr }.flush
        data.ipv4Addr true true reply
  else s

/-- `HandleNonNatIPAddr` for an address that is deleted. -/
def handleNonNatIPAddrDel (ipv4Addr : Ip) : CtListener :=
  if s.isStaMode then s
  else
    match s.nonnatIfaceIpv4Addr.findIdx? fun ip => ip = ipv4Addr with
    | none => s
    | some cnt =>
      let s := { s with
        nonnatIfaceIpv4Addr := s.nonnatIfaceIpv4Addr.set cnt 0 }.flush
        ipv4Addr false false fun _ => none
      s.call none (s.natInst.delEntriesOnClntDiscon ipv4Addr).2

/-- `HandleNeighIpAddrAddEvt`. -/
def handleNeighIpAddrAddEvt (data : IfaceAddr)
    (resumed reply : Nat → Option Nat) : CtListener :=
  if checkNatIface data = some true then
    match s.natIfaceIpv4Addr.findIdx? fun ip =>
        ip = data.ipv4Addr || ip = 0 with
    | none => s
    | some cnt =>
      let s := { s with
        natIfaceIpv4Addr := s.natIfaceIpv4Addr.set cnt data.ipv4Addr }
      (s.call none (s.natInst.resetPwrSaveIf data.ipv4Addr resumed)).flush
        data.ipv4Addr true false reply
  else s

/-- One turn of the loop of `HandleNeighIpAddrDelEvt`. -/
def dropNeighIpAddr (ipv4Addr : Ip) (s : CtListener) (cnt : Nat) : CtListener :=
  if s.natIfaceIpv4Addr[cnt]? = some ipv4Addr then
    let s := { s with natIfaceIpv4Addr := s.natIfaceIpv4Addr.set cnt 0 }.flush
      ipv4Addr false false fun _ => none
    s.call none (s.natInst.delEntriesOnClntDiscon ipv4Addr).2
  else s

/-- `HandleNeighIpAddrDelEvt`. -/
def handleNeighIpAddrDelEvt (ipv4Addr : Ip) : CtListener :=
  if ipv4Addr = 0 then s
  else (List.range s.natIfaceIpv4Addr.length).foldl (dropNeighIpAddr ipv4Addr) s

/-- `HandleSTAClientAddEvt`. -/
def handleSTAClientAddEvt (clntIpAddr : Ip) (reply : Nat → Option Nat) :
    CtListener :=
  if s.staClntCnt ≥ maxStaClntIfaces then s
  else
    let s :=
      match s.staClntIpv4Addr.findIdx? fun ip =>
          (ip ≠ 0 && ip = clntIpAddr) || ip = 0 with
      | none => s
      | some cnt =>
        if s.staClntIpv4Addr[cnt]? = some 0 then
          { s with
            staClntIpv4Addr := s.staClntIpv4Addr.set cnt clntIpAddr
            staClntCnt := s.staClntCnt + 1 }
        else s
    s.flush clntIpAddr true false reply

/-- `HandleSTAClientDelEvt`. -/
def handleSTAClientDelEvt (clntIpAddr : Ip) : CtListener :=
  let s :=
    match s.staClntIpv4Addr.findIdx? fun ip => ip ≠ 0 && ip = clntIpAddr with
    | none => s
    | some cnt =>
      { s.call none (s.natInst.delEntriesOnSTAClntDiscon clntIpAddr).2 with
        staClntIpv4Addr := s.staClntIpv4Addr.set cnt 0
        staClntCnt := s.staClntCnt - 1 }
  s.flush clntIpAddr false false fun _ => none

/-! ### The connections -/

/-- `isPrivateSubnet`. -/
def isPrivateSubnet (ipAddr : Ip) : Bool :=
  s.privateSubnetTable.any fun (addr, mask) => addr = mask &&& ipAddr

/-- One end of the connection is in the list. -/
def endsIn (addrs : List Ip) (rule : TempEntry) : Bool :=
  addrs.any fun ip => ip ≠ 0 && (rule.privateIp = ip || rule.targetIp = ip)

/-- `AddIface`: the rule, if there is to be one, and whether it is a temporary
entry. -/
def addIface (rule : TempEntry) : Option (TempEntry × Bool) :=
  if endsIn s.natIfaceIpv4Addr rule then some (rule, false)
  else if !s.isStaMode && endsIn s.nonnatIfaceIpv4Addr rule then
    some (rule.dummy, false)
  else if s.isPrivateSubnet rule.privateIp || s.isPrivateSubnet rule.targetIp then
    some (rule, true)
  else none

/-- `CheckSTAClient`: the entry is to be a temporary one. -/
def checkSTAClient (rule : TempEntry) : Bool :=
  if !s.isStaMode || s.staClntCnt = 0 then false
  else if s.staClntIpv4Addr.headD 0 &&& staClntSubnetMask ≠
      rule.targetIp &&& staClntSubnetMask then false
  else !(s.staClntIpv4Addr.take s.staClntCnt.toNat).contains rule.targetIp

/-- `ProcessTCPorUDPMsg` up to the entry. -/
def readConn (ct : Conn) : Option (TempEntry × Bool) :=
  match ct.natStatus s.wanIpaddr with
  | none => none
  | some status =>
    let rule := ct.populate status s.wanIpaddr
    let read :=
      if rule.privateIp ≠ s.wanIpaddr then s.addIface rule
      else if s.isStaMode then none
      else some ({ rule with privatePort := rule.publicPort }, false)
    read.map fun (rule, isTempEntry) =>
      (rule, isTempEntry || s.checkSTAClient rule)

/-- `AddORDeleteNatEntry`. -/
def addORDeleteNatEntry (msg : CtMessage) (rule : TempEntry)
    (isTempEntry : Bool) (reply : Option Nat) : CtListener :=
  if msg.opens then
    if !s.wanUp then
      s.call (some msg.ct) (s.natInst.cacheEntry rule.toNatTableEntry)
    else if isTempEntry then s.call (some msg.ct) (s.natInst.addTempEntry rule)
    else s.call (some msg.ct) (s.natInst.addEntry rule.toNatTableEntry reply).2
  else if msg.closes then
    s.call none
      ((s.natInst.deleteEntry rule.toNatTableEntry).deleteTempEntry
        rule.toNatTableEntry)
  else s

/-- `ProcessCTMessage`. -/
def processCTMessage (msg : CtMessage) (reply : Option Nat) : CtListener :=
  if msg.ct.l4proto ≠ ipprotoUdp && msg.ct.l4proto ≠ ipprotoTcp then s
  else
    match s.readConn msg.ct with
    | none => s
    | some (rule, isTempEntry) => s.addORDeleteNatEntry msg rule isTempEntry reply

/-- One event: `event_callback`, and the calls from the interfaces. -/
def step : CtEvent → CtListener
  | .wanUp ipv4Addr isSta reply => s.triggerWANUp ipv4Addr isSta reply
  | .wanDown ipv4Addr => if s.wanUp then s.triggerWANDown ipv4Addr else s
  | .message msg reply => s.processCTMessage msg reply
  | .ifaceAddrAdd data reply => s.handleNonNatIPAddrAdd data reply
  | .ifaceAddrDel ipv4Addr => s.handleNonNatIPAddrDel ipv4Addr
  | .neighIpAddrAdd data resumed reply =>
    s.handleNeighIpAddrAddEvt data resumed reply
  | .neighIpAddrDel ipv4Addr => s.handleNeighIpAddrDelEvt ipv4Addr
  | .staClientAdd clntIpAddr reply => s.handleSTAClientAddEvt clntIpAddr reply
  | .staClientDel clntIpAddr => s.handleSTAClientDelEvt clntIpAddr

end CtListener

end Axon7.Conntrack

/-!
# The clients in power save that NatApp knows

`PwrSaveIfs` is the set of their addresses, in an array. `UpdatePwrSaveIf` puts an
address in, and `ResetPwrSaveIf` and `DelEntriesOnClntDiscon` take one out; what
they do to the entries of the table, and `FlushTempEntries`, leave it alone.
-/

namespace Axon7.Conntrack

open Axon7.Lib

namespace NatCache

variable {c : NatCache} {ip : Ip} {reply : Nat → Option Nat}

theorem overCache_pwrSaveIfs {turn : Nat → NatTableEntry → NatCache → NatCache}
    (hturn : ∀ cnt entry c, (turn cnt entry c).pwrSaveIfs = c.pwrSaveIfs) :
    (c.overCache turn).pwrSaveIfs = c.pwrSaveIfs := by
  rw [NatCache.overCache]
  induction List.range c.cache.length generalizing c with
  | nil => rfl
  | cons cnt l ih =>
    rw [List.foldl_cons, ih]
    split
    · rfl
    · exact hturn ..

theorem updatePwrSaveIf_pwrSaveIfs (hip : ip ≠ 0) :
    (c.updatePwrSaveIf ip).2.pwrSaveIfs =
      if ip ∈ c.pwrSaveIfs then c.pwrSaveIfs else c.pwrSaveIfs.replace 0 ip := by
  rw [updatePwrSaveIf, if_neg hip]
  split
  · rfl
  · refine overCache_pwrSaveIfs fun cnt entry c => ?_
    unfold savePower
    split
    · split <;> rfl
    · rfl

theorem resetPwrSaveIf_pwrSaveIfs (hip : ip ≠ 0) :
    (c.resetPwrSaveIf ip reply).pwrSaveIfs = c.pwrSaveIfs.replace ip 0 := by
  rw [resetPwrSaveIf, if_neg hip]
  refine overCache_pwrSaveIfs fun cnt entry c => ?_
  unfold resumePower
  split
  · split <;> rfl
  · rfl

theorem delEntriesOnClntDiscon_pwrSaveIfs (hip : ip ≠ 0) :
    (c.delEntriesOnClntDiscon ip).2.pwrSaveIfs = c.pwrSaveIfs.replace ip 0 := by
  rw [delEntriesOnClntDiscon, if_neg hip]
  refine overCache_pwrSaveIfs fun cnt entry c => ?_
  unfold dropRule
  split
  · split <;> rfl
  · rfl

theorem addEntry_pwrSaveIfs {rule : NatTableEntry} {reply : Option Nat} :
    (c.addEntry rule reply).2.pwrSaveIfs = c.pwrSaveIfs := by
  unfold addEntry
  repeat' split
  all_goals rfl

theorem flushTempEntry_pwrSaveIfs {isAdd isDummy : Bool} {cnt : Nat} :
    (flushTempEntry ip isAdd isDummy reply c cnt).pwrSaveIfs = c.pwrSaveIfs := by
  unfold flushTempEntry
  split
  · rfl
  split
  · split
    · dsimp only
      split
      · rename_i hadd
        exact (congrArg (·.2.pwrSaveIfs) hadd).symm.trans addEntry_pwrSaveIfs
      · rename_i hadd
        exact (congrArg (·.2.pwrSaveIfs) hadd).symm.trans addEntry_pwrSaveIfs
    · rfl
  · rfl

end NatCache

namespace CtListener

variable {s : CtListener} {ip : Ip}

theorem flush_pwrSaveIfs {isAdd isDummy : Bool} {reply : Nat → Option Nat} :
    (s.flush ip isAdd isDummy reply).natInst.pwrSaveIfs = s.natInst.pwrSaveIfs := by
  rw [flush, NatInst.flushTempEntries]
  generalize s.natInst = n
  induction List.range n.temp.length generalizing n with
  | nil => rfl
  | cons cnt l ih => exact (ih _).trans NatCache.flushTempEntry_pwrSaveIfs

/-- `HandleNeighIpAddrAddEvt` finds the address, or a place for it. -/
def Takes (s : CtListener) (data : IfaceAddr) : Prop :=
  checkNatIface data = some true ∧ ∃ ip ∈ s.natIfaceIpv4Addr, ip = data.ipv4Addr ∨ ip = 0

instance (s : CtListener) (data : IfaceAddr) : Decidable (s.Takes data) :=
  inferInstanceAs (Decidable (_ ∧ _))

theorem handleNeighIpAddrAddEvt_pwrSaveIfs {data : IfaceAddr}
    {resumed reply : Nat → Option Nat} :
    (s.handleNeighIpAddrAddEvt data resumed reply).natInst.pwrSaveIfs =
      if s.Takes data then s.natInst.pwrSaveIfs.replace data.ipv4Addr 0
      else s.natInst.pwrSaveIfs := by
  rw [handleNeighIpAddrAddEvt]
  by_cases hnat : checkNatIface data = some true
  · have hip : data.ipv4Addr ≠ 0 := by
      intro hip
      rw [checkNatIface, hip] at hnat
      cases hnat
    rw [if_pos hnat]
    split
    · rename_i hnone
      rw [if_neg]
      rintro ⟨-, ip, hmem, hplace⟩
      have hno := List.findIdx?_eq_none_iff.mp hnone ip hmem
      rcases hplace with rfl | rfl <;> simp at hno
    · rename_i cnt hsome
      have hex : s.Takes data := by
        obtain ⟨hlt, hplace, -⟩ := List.findIdx?_eq_some_iff_getElem.mp hsome
        exact ⟨hnat, _, List.getElem_mem hlt, by simpa using hplace⟩
      rw [if_pos hex, flush_pwrSaveIfs]
      exact NatCache.resetPwrSaveIf_pwrSaveIfs hip
  · rw [if_neg hnat, if_neg fun h => hnat h.1]

theorem dropNeighIpAddr_pwrSaveIfs (hip : ip ≠ 0) (cnt : Nat) :
    (dropNeighIpAddr ip s cnt).natInst.pwrSaveIfs =
      if s.natIfaceIpv4Addr[cnt]? = some ip then s.natInst.pwrSaveIfs.replace ip 0
      else s.natInst.pwrSaveIfs := by
  rw [dropNeighIpAddr]
  split
  · refine (NatCache.delEntriesOnClntDiscon_pwrSaveIfs hip).trans ?_
    rw [flush_pwrSaveIfs]
  · rfl

theorem handleNeighIpAddrDelEvt_pwrSaveIfs (hip : ip ≠ 0)
    (h : SlotSet 0 s.natInst.pwrSaveIfs) :
    (s.handleNeighIpAddrDelEvt ip).natInst.pwrSaveIfs =
      if ip ∈ s.natIfaceIpv4Addr then s.natInst.pwrSaveIfs.replace ip 0
      else s.natInst.pwrSaveIfs := by
  have hloop : ∀ (l : List Nat) (s : CtListener), SlotSet 0 s.natInst.pwrSaveIfs →
      (l.foldl (dropNeighIpAddr ip) s).natInst.pwrSaveIfs =
        if ∃ cnt ∈ l, s.natIfaceIpv4Addr[cnt]? = some ip then
          s.natInst.pwrSaveIfs.replace ip 0
        else s.natInst.pwrSaveIfs := by
    intro l
    induction l with
    | nil => simp
    | cons cnt l ih =>
      intro s h
      rw [List.foldl_cons]
      by_cases hcnt : s.natIfaceIpv4Addr[cnt]? = some ip
      · have hpwr := dropNeighIpAddr_pwrSaveIfs (s := s) hip cnt
        rw [if_pos hcnt] at hpwr
        -- it is in one slot only, so that another turn changes nothing
        have hgone : ip ∉ s.natInst.pwrSaveIfs.replace ip 0 := fun hmem =>
          ((h.mem_erase hip hip).mp hmem).2 rfl
        rw [if_pos ⟨cnt, List.mem_cons_self, hcnt⟩, ih _ (by rw [hpwr]; exact h.erase ip),
          hpwr, List.replace_of_not_mem hgone, ite_self]
      · have hsame : dropNeighIpAddr ip s cnt = s := if_neg hcnt
        rw [hsame, ih s h]
        refine if_congr ?_ rfl rfl
        simp [hcnt]
  rw [handleNeighIpAddrDelEvt, if_neg hip, hloop _ s h]
  refine if_congr ?_ rfl rfl
  rw [List.mem_iff_getElem?]
  constructor
  · rintro ⟨cnt, -, hcnt⟩
    exact ⟨cnt, hcnt⟩
  · rintro ⟨cnt, hcnt⟩
    exact ⟨cnt, List.mem_range.mpr (List.getElem?_eq_some_iff.mp hcnt).1, hcnt⟩

end CtListener

end Axon7.Conntrack

import Axon7.Clients.Client
import Axon7.Wan.Table

/-!
# IPACM_Wan

A backhaul: a PDN of the modem, or the Wi-Fi station or a cradle in its place.
Every instance gets every event, in the order of their registration; they share
the static members, and the one handles for a route of another what the other
has to give up.

Modelled as built with `FEATURE_IPA_ANDROID` and `FEATURE_IPACM_HAL`, the kernel
granting every request. Left out are software routing, XLAT, statistics, the
resource manager and the connections of the clients, and what a rule says.
-/

namespace Axon7.Wan

open Axon7.Lib
open Axon7.Tether (IpType IfaceIpType Addr)
open Axon7.Clients (Mac RtHdl txOf v4Hdls v6Hdls)

def otherFamily : IpType → IpType
  | .v4 => .v6
  | .v6 => .v4

/-! ## The kernel -/

/-- What there are handles for. -/
inductive Res
  | rt (ip : IpType)
  | flt (ip : IpType)
  | hdr
  | hdrProc
deriving DecidableEq

/-- Where an instance keeps a handle: `dft_rt_rule_hdl`; `wan_route_rule_v4_hdl`,
`wan_route_rule_v6_hdl` and `wan_route_rule_v6_hdl_a5`; the dummy header;
`dft_v4fl_rule_hdl` and `dft_v6fl_rule_hdl`; `ipv6_dest_flt_rule_hdl`; `firewall_hdl_v4`
and `firewall_hdl_v6`; `dft_wan_fl_hdl`; the rule for fragments; and the record of a
client. -/
inductive Place
  | dftRtV4
  | dftRtV6 (i : Nat)
  | wanRoute (ip : IpType) (txIndex : Nat)
  | wanRouteV6A5
  | hdrDummyV6
  | hdrProcDummyV6
  | dftFl (ip : IpType) (i : Nat)
  | ipv6DestFlt (i : Nat)
  | firewall (ip : IpType) (i : Nat)
  | dftWanFl (i : Nat)
  | ipv6FragFirewall
  | clientHdr (n : Nat) (ip : IpType)
  | clientRt (n : Nat) (r : RtHdl)
deriving DecidableEq

def Place.res : Place → Res
  | .dftRtV4 => .rt .v4
  | .dftRtV6 _ => .rt .v6
  | .wanRoute ip _ => .rt ip
  | .wanRouteV6A5 => .rt .v6
  | .hdrDummyV6 => .hdr
  | .hdrProcDummyV6 => .hdrProc
  | .dftFl ip _ => .flt ip
  | .ipv6DestFlt _ => .flt .v6
  | .firewall ip _ => .flt ip
  | .dftWanFl i => if i = 0 then .flt .v4 else .flt .v6
  | .ipv6FragFirewall => .flt .v6
  | .clientHdr _ _ => .hdr
  | .clientRt _ r => .rt r.ip

/-- A thing in the kernel is known by the instance that had it installed, and by
where that has the handle. -/
abbrev Kernel := Pool (Res × Nat) (Nat × Place)

/-- The handle the kernel gives next. -/
abbrev Alloc := Kernel → Res → Nat

/-- The kernel gives handles that are not in use and not 0. -/
structure Alloc.Grants (alloc : Alloc) : Prop where
  fresh : ∀ (k : Kernel) res, k.Fresh (res, alloc k res)
  ne_zero : ∀ k res, alloc k res ≠ 0

/-- A kernel that counts its handles up. -/
def nextHandle : Alloc := fun k _ => k.nextHandle

theorem nextHandle_grants : nextHandle.Grants where
  fresh k res := k.fresh_nextHandle res
  ne_zero _ _ := Nat.succ_ne_zero _

/-! ## The instance -/

/-- `ipacm_wan_iface_type`. -/
inductive WanType
  | q6Wan
  | wlanWan
  | ecmWan
deriving DecidableEq

/-- `IPA_MAX_NUM_WAN_CLIENTS`. -/
def maxNumWanClients : Nat := 10

/-- `IPACM_MAX_FIREWALL_ENTRIES`. -/
def maxFirewallEntries : Nat := 50

/-- What does not change: the number and name of the interface, its kind, the
families of its transmit properties, the meta data of its receive properties, and
the mux numbers of its extended properties. There are none of a kind where the
list is empty. -/
structure Conf where
  ipaIfNum : Nat
  devName : String
  staMode : WanType
  isEmbms : Bool
  isBridge : Bool
  tx : List IpType
  rx : List Nat
  ext : List Nat

namespace Conf

def metaData (c : Conf) (i : Nat) : Nat := c.rx.getD i 0

/-- `m_is_sta_mode != Q6_WAN`. -/
def isSta (c : Conf) : Bool := c.staMode ≠ .q6Wan

end Conf

/-- `ipa_wan_client`, but for the handles. -/
structure WanClient where
  mac : Mac
  v4Addr : BitVec 32
  v6Addr : Nat → BitVec 128
  routeRuleSetV4 : Bool
  routeRuleSetV6 : Nat
  ipv4Set : Bool
  ipv6Set : Nat
  headerSet : IpType → Bool

/-- The memory is cleared. -/
def WanClient.blank : WanClient where
  mac := 0
  v4Addr := 0
  v6Addr _ := 0
  routeRuleSetV4 := false
  routeRuleSetV6 := 0
  ipv4Set := false
  ipv6Set := 0
  headerSet _ := false

/-- An instance. The members that come in two, for IPv4 and for IPv6, are one by
the family; `num_dft_rt_v6` is the number of addresses, and a gateway is there
if its flag is set. -/
structure Iface where
  conf : Conf
  ipType : IfaceIpType
  wanV4Addr : BitVec 32
  wanV4AddrSet : Bool
  ipv6Addr : List (BitVec 128)
  ipv6Prefix : BitVec 64
  wanV4AddrGw : Option (BitVec 32)
  wanV6AddrGw : Option (BitVec 128)
  active : IpType → Bool
  headerSet : IpType → Bool
  headerPartialDefaultWan : IpType → Bool
  isDefaultGateway : Bool
  modemPdnIndex : IpType → Int
  numFirewall : IpType → Nat
  fragInstalled : Bool
  firewallConfig : FirewallConf
  numIpv6DestFltRule : Nat
  clients : Nat → WanClient
  numWanClient : Nat
  hdl : Place → Nat

/-- The constructor. -/
def Iface.init (conf : Conf) : Iface where
  conf := conf
  ipType := .null
  wanV4Addr := 0
  wanV4AddrSet := false
  ipv6Addr := []
  ipv6Prefix := 0
  wanV4AddrGw := none
  wanV6AddrGw := none
  active _ := false
  headerSet _ := false
  headerPartialDefaultWan _ := false
  isDefaultGateway := false
  modemPdnIndex _ := 0
  numFirewall _ := 0
  fragInstalled := false
  firewallConfig := .dft
  numIpv6DestFltRule := 0
  clients _ := .blank
  numWanClient := 0
  hdl _ := 0

/-! ## What the instances share -/

/-- `ipacm_event_iface_up`. -/
structure IfaceUp where
  ifname : String
  ipv4Addr : BitVec 32
  ipv6Prefix : BitVec 64
  isSta : Bool

/-- The events for the others: `IPA_HANDLE_WAN_UP`, `IPA_HANDLE_WAN_DOWN`,
`IPA_HANDLE_WAN_UP_TETHER`, `IPA_HANDLE_WAN_DOWN_TETHER`, and the same with
`_V6`. -/
inductive Posted
  | wanUp (ip : IpType) (data : IfaceUp)
  | wanDown (ip : IpType) (data : IfaceUp)
  | wanUpTether (ip : IpType) (isSta : Bool) (ipv6Prefix : BitVec 64)
  | wanDownTether (ip : IpType) (isSta : Bool)

/-- The static members, what is read of `IPACM_Config`, the events posted, what
the modem was last handed, and the kernel. `wan_up_dev_name` is empty when it is
zeroed. -/
structure Statics where
  wanUp : IpType → Bool
  wanUpDevName : String
  backhaulIsStaMode : Bool
  backhaulIsWanBridge : Bool
  backhaulIpv6Prefix : BitVec 64
  currWanIp : BitVec 32
  embmsIsOn : Bool
  qmapId : Nat
  numModemPdn : IpType → Int
  flt : IpType → Table
  algPorts : List (Nat × Nat)
  posted : List Posted
  modem : IpType → List (Option FltRule)
  kernel : Kernel

namespace Statics

def init (algPorts : List (Nat × Nat)) : Statics where
  wanUp _ := false
  wanUpDevName := ""
  backhaulIsStaMode := false
  backhaulIsWanBridge := false
  backhaulIpv6Prefix := 0
  currWanIp := 0
  embmsIsOn := false
  qmapId := 0
  numModemPdn _ := 0
  flt _ := .empty
  algPorts := algPorts
  posted := []
  modem _ := []
  kernel := .empty

/-- `PostEvt`. -/
def postEvt (e : Posted) (g : Statics) : Statics :=
  { g with posted := g.posted ++ [e] }

def setFlt (ip : IpType) (t : Table) (g : Statics) : Statics :=
  { g with flt := Function.update g.flt ip t }

/-- `install_wan_filtering_rule(false)`. -/
def installWanFilteringRule (conf : Conf) (g : Statics) : Statics :=
  if conf.rx = [] then g
  else
    { g with
      modem := fun ip =>
        (if g.embmsIsOn then [some (.embms ip)] else []) ++ (g.flt ip).sent }

/-- `del_wan_firewall_rule`. -/
def delWanFirewallRule (ip : IpType) (g : Statics) : Statics :=
  g.setFlt ip ((g.flt ip).delWanFirewallRule ip)

/-- `config_wan_firewall_rule`. -/
def configWanFirewallRule (conf : Conf) (ip : IpType) (fw : FirewallConf)
    (g : Statics) : Statics :=
  g.setFlt ip ((g.flt ip).configWanFirewallRule g.algPorts fw g.backhaulIsWanBridge
    conf.metaData ip)

/-- The last PDN of the family is gone. -/
def clearFltIfLast (conf : Conf) (ip : IpType) (g : Statics) : Statics :=
  if g.numModemPdn ip = 0 then
    (g.setFlt ip { (g.flt ip).zeroFrom 0 with num := 0 }).installWanFilteringRule conf
  else g

/-- `wan_up_dev_name` is zeroed unless the family is still up. -/
def clearDevName (ip : IpType) (g : Statics) : Statics :=
  if g.wanUp ip then g else { g with wanUpDevName := "" }

/-- A PDN of the family is gone. -/
def decModemPdn (ip : IpType) (g : Statics) : Statics :=
  { g with numModemPdn := Function.update g.numModemPdn ip (g.numModemPdn ip - 1) }

end Statics

local instance lawfulBEq_addr : LawfulBEq (BitVec 128) := instLawfulBEq

namespace Iface

variable (alloc : Alloc)

/-! ## Handles -/

/-- Things are installed one after the other, each handle kept in its place. -/
def addAt : List Place → Iface → Statics → Iface × Statics
  | [], i, g => (i, g)
  | p :: ps, i, g =>
    let hdl := alloc g.kernel p.res
    addAt ps { i with hdl := Function.update i.hdl p hdl }
      { g with kernel := g.kernel.add (p.res, hdl) (i.conf.ipaIfNum, p) }

/-- What the handles stand for is deleted; the handle 0 is skipped. -/
def delAt (ps : List Place) (i : Iface) (g : Statics) : Statics :=
  { g with
    kernel := ps.foldl (fun k p => if i.hdl p = 0 then k else k.del (p.res, i.hdl p))
      g.kernel }

/-! ## The firewall of a station -/

/-- `config_dft_firewall_rules`. -/
def configDftFirewallRules (ip : IpType) (fw : FirewallConf) (i : Iface) (g : Statics) :
    Iface × Statics :=
  if i.conf.rx = [] then (i, g)
  else
    let i := { i with firewallConfig := fw }
    let (i, g) :=
      if fw.hasFragRule ip then
        let (i, g) := i.addAt alloc [.ipv6FragFirewall] g
        ({ i with fragInstalled := true }, g)
      else (i, g)
    let n := (fw.split ip).length
    match ip with
    | .v4 =>
      let (i, g) := i.addAt alloc ((List.range n).map (.firewall ip)) g
      let i := { i with numFirewall := Function.update i.numFirewall ip (i.numFirewall ip + n) }
      i.addAt alloc [.dftWanFl 0] g
    | .v6 =>
      let (i, g) := i.addAt alloc ((List.range n).map (.firewall ip)) g
      let i := { i with numFirewall := Function.update i.numFirewall ip (i.numFirewall ip + n) }
      i.addAt alloc [.dftWanFl 2, .dftWanFl 1] g

/-- `del_dft_firewall_rules`. -/
def delDftFirewallRules (ip : IpType) (i : Iface) (g : Statics) : Iface × Statics :=
  if i.conf.rx = [] ∨ i.active ip = false then (i, g)
  else if maxFirewallEntries < i.numFirewall ip then (i, g)
  else
    let g := i.delAt ((List.range (i.numFirewall ip)).map (.firewall ip)) g
    match ip with
    | .v4 =>
      ({ i with numFirewall := Function.update i.numFirewall ip 0 },
        i.delAt [.dftWanFl 0] g)
    | .v6 =>
      let g := i.delAt [.dftWanFl 1, .dftWanFl 2] g
      let i := { i with numFirewall := Function.update i.numFirewall ip 0 }
      if i.fragInstalled && i.firewallConfig.checkAttrMask then
        ({ i with fragInstalled := false }, i.delAt [.ipv6FragFirewall] g)
      else (i, g)

/-! ## The default route -/

/-- What is posted with `IPA_HANDLE_WAN_UP`, and without the name with
`IPA_HANDLE_WAN_DOWN`. -/
def ifaceUp (ifname : String) (ip : IpType) (i : Iface) : IfaceUp where
  ifname := ifname
  ipv4Addr := if ip = .v4 then i.wanV4Addr else 0
  ipv6Prefix := if ip = .v6 then i.ipv6Prefix else 0
  isSta := i.conf.isSta

/-- The routing rules of a station for the family. -/
def wanRoutes (ip : IpType) (i : Iface) : List Place :=
  if i.conf.isSta then (txOf i.conf.tx ip).map (.wanRoute ip) else []

/-- The rules for the default route; an IPv6 one has one more, and in station
mode that needs a header. -/
def addDefaultRoute (ip : IpType) (i : Iface) (g : Statics) : Iface × Statics :=
  let (i, g) := i.addAt alloc (i.wanRoutes ip) g
  match ip with
  | .v4 => (i, g)
  | .v6 =>
    let (i, g) :=
      -- `add_dummy_rx_hdr`
      if i.conf.isSta then i.addAt alloc [.hdrDummyV6, .hdrProcDummyV6] g else (i, g)
    i.addAt alloc [.wanRouteV6A5] g

/-- `handle_route_add_evt`, from where the rules are added. -/
def routeUp (ip : IpType) (fw : FirewallConf) (i : Iface) (g : Statics) :
    Iface × Statics :=
  let (i, g) := i.addDefaultRoute alloc ip g
  let g :=
    { g with
      backhaulIpv6Prefix := if ip = .v6 then i.ipv6Prefix else g.backhaulIpv6Prefix
      wanUp := Function.update g.wanUp ip true
      wanUpDevName := i.conf.devName }
  let i := { i with active := Function.update i.active ip true }
  let (i, g) :=
    if i.conf.isSta then i.configDftFirewallRules alloc ip fw g
    else (i, (g.configWanFirewallRule i.conf ip fw).installWanFilteringRule i.conf)
  (i, g.postEvt (.wanUp ip (i.ifaceUp i.conf.devName ip)))

/-- `handle_route_add_evt`. -/
def handleRouteAddEvt (ip : IpType) (fw : FirewallConf) (i : Iface) (g : Statics) :
    Iface × Statics :=
  if i.conf.tx = [] then (i, g)
  else
    let i := { i with isDefaultGateway := true }
    let g := { g with backhaulIsWanBridge := i.conf.isBridge }
    if i.conf.isSta then
      let g := { g with backhaulIsStaMode := true }
      if i.headerSet ip = false then
        ({ i with
          headerPartialDefaultWan := Function.update i.headerPartialDefaultWan ip true }, g)
      else i.routeUp alloc ip fw g
    else
      let g := { g with backhaulIsStaMode := false }
      match i.conf.ext with
      | [] => (i, g)
      | muxId :: _ => i.routeUp alloc ip fw { g with qmapId := muxId }

/-- The default route is gone, from where the rules have been deleted. -/
def routeDown (ip : IpType) (i : Iface) (g : Statics) : Iface × Statics :=
  let g := g.postEvt (.wanDown ip (i.ifaceUp "" ip))
  let g := { g with wanUp := Function.update g.wanUp ip false }
  ({ i with active := Function.update i.active ip false },
    g.clearDevName (otherFamily ip))

/-- `handle_route_del_evt` and `handle_route_del_evt_ex`. Only the first is for a
station, and has more to delete. -/
def handleRouteDelEvt (ip : IpType) (i : Iface) (g : Statics) : Iface × Statics :=
  if i.conf.tx = [] then (i, g)
  else
    let i := { i with isDefaultGateway := false }
    if i.active ip then
      let g := i.delAt (i.wanRoutes ip) g
      i.routeDown ip <|
        match ip with
        | .v4 => g
        | .v6 => i.delAt [.wanRouteV6A5] g
    else (i, g)

/-- The default route goes to another, or is deleted. -/
def leaveRoute (ip : IpType) (i : Iface) (g : Statics) : Iface × Statics :=
  if i.conf.isSta then
    let (i, g) := i.delDftFirewallRules ip g
    i.handleRouteDelEvt ip g
  else
    i.handleRouteDelEvt ip ((g.delWanFirewallRule ip).installWanFilteringRule i.conf)

/-- `post_wan_up_tether_evt`. -/
def postWanUpTetherEvt (ip : IpType) (i : Iface) (g : Statics) : Statics :=
  g.postEvt (.wanUpTether ip i.conf.isSta (if ip = .v6 then i.ipv6Prefix else 0))

/-- `post_wan_down_tether_evt`. -/
def postWanDownTetherEvt (ip : IpType) (i : Iface) (g : Statics) : Statics :=
  g.postEvt (.wanDownTether ip i.conf.isSta)

/-! ## Clients -/

/-- `get_wan_client_index`. -/
def wanClientIndex (mac : Mac) (i : Iface) : Option Nat :=
  (List.range i.numWanClient).find? fun n => (i.clients n).mac = mac

/-- `get_wan_client_index_ipv4`. -/
def wanClientIndexIpv4 (addr : BitVec 32) (i : Iface) : Option Nat :=
  (List.range i.numWanClient).find? fun n =>
    (i.clients n).ipv4Set && (i.clients n).v4Addr = addr

/-- `get_wan_client_index_ipv6`. -/
def wanClientIndexIpv6 (addr : BitVec 128) (i : Iface) : Option Nat :=
  (List.range i.numWanClient).find? fun n =>
    (List.range (i.clients n).ipv6Set).any fun m => (i.clients n).v6Addr m = addr

def setClient (n : Nat) (c : WanClient) (i : Iface) : Iface :=
  { i with clients := Function.update i.clients n c }

/-- The header of the family, from the first transmit property that has it. -/
def addClientHeader (n : Nat) (ip : IpType) (i : Iface) (g : Statics) :
    Iface × Statics :=
  if ip ∈ i.conf.tx then
    let (i, g) := i.addAt alloc [.clientHdr n ip] g
    let c := i.clients n
    (i.setClient n { c with headerSet := Function.update c.headerSet ip true }, g)
  else (i, g)

/-- `handle_wan_hdr_init`. Without transmit properties the address is all that is
written. -/
def handleWanHdrInit (mac : Mac) (i : Iface) (g : Statics) : Iface × Statics :=
  match i.wanClientIndex mac with
  | some _ => (i, g)
  | none =>
    if maxNumWanClients ≤ i.numWanClient then (i, g)
    else
      let n := i.numWanClient
      let i := i.setClient n { i.clients n with mac := mac }
      if i.conf.tx = [] then (i, g)
      else
        let (i, g) := i.addClientHeader alloc n .v4 g
        let (i, g) := i.addClientHeader alloc n .v6 g
        let i := i.setClient n { i.clients n with
          routeRuleSetV4 := false
          routeRuleSetV6 := 0
          ipv4Set := false
          ipv6Set := 0 }
        ({ i with numWanClient := n + 1 }, g)

/-- `delete_wan_rtrules`. -/
def deleteWanRtrules (n : Nat) (ip : IpType) (i : Iface) (g : Statics) :
    Iface × Statics :=
  let c := i.clients n
  match ip with
  | .v4 =>
    (i.setClient n { c with routeRuleSetV4 := false },
      if c.routeRuleSetV4 then i.delAt ((v4Hdls i.conf.tx).map (.clientRt n)) g else g)
  | .v6 =>
    (i.setClient n { c with routeRuleSetV6 := 0 },
      i.delAt ((v6Hdls i.conf.tx (List.range c.routeRuleSetV6)).map (.clientRt n)) g)

/-- `handle_wan_client_ipaddr`, if it does not fail. -/
def handleWanClientIpaddr (mac : Mac) (a : Addr) (i : Iface) (g : Statics) :
    Option (Iface × Statics) :=
  match i.wanClientIndex mac with
  | none => none
  | some n =>
    let c := i.clients n
    match a with
    | .v4 addr =>
      if addr = 0 then none
      else if c.ipv4Set = false then
        some (i.setClient n { c with v4Addr := addr, ipv4Set := true }, g)
      else if addr = c.v4Addr then none
      else
        let (i, g) := i.deleteWanRtrules n .v4 g
        some (i.setClient n { i.clients n with v4Addr := addr }, g)
    | .v6 addr =>
      if addr = 0 then none
      else if c.ipv6Set < Clients.ipv6NumAddr then
        if ∃ m < c.ipv6Set, c.v6Addr m = addr then none
        else
          some (i.setClient n { c with
            v6Addr := Function.update c.v6Addr c.ipv6Set addr
            ipv6Set := c.ipv6Set + 1 }, g)
      else none

/-- `handle_wan_client_route_rule`. -/
def handleWanClientRouteRule (mac : Mac) (ip : IpType) (i : Iface) (g : Statics) :
    Iface × Statics :=
  if i.conf.tx = [] then (i, g)
  else
    match i.wanClientIndex mac with
    | none => (i, g)
    | some n =>
      let c := i.clients n
      match ip with
      | .v4 =>
        if c.routeRuleSetV4 = false ∧ c.ipv4Set = true then
          let (i, g) := i.addAt alloc ((v4Hdls i.conf.tx).map (.clientRt n)) g
          (i.setClient n { c with routeRuleSetV4 := true }, g)
        else (i, g)
      | .v6 =>
        if c.routeRuleSetV6 < c.ipv6Set then
          let nums := List.range' c.routeRuleSetV6 (c.ipv6Set - c.routeRuleSetV6)
          let (i, g) := i.addAt alloc ((v6Hdls i.conf.tx nums).map (.clientRt n)) g
          (i.setClient n { c with routeRuleSetV6 := c.ipv6Set }, g)
        else (i, g)

/-- The headers of a client become those of the station, the one of the gateway's
family first. There is no result if one is missing. -/
def takeHeaders (n : Nat) (ip : IpType) (i : Iface) : Iface × Bool :=
  let c := i.clients n
  if c.headerSet ip then
    let i := { i with headerSet := Function.update i.headerSet ip true }
    if c.headerSet (otherFamily ip) then
      ({ i with headerSet := Function.update i.headerSet (otherFamily ip) true }, true)
    else (i, false)
  else (i, false)

/-- The gateway of the family, if it is known, is one of the clients. The flag
says whether to go on. -/
def findGateway (ip : IpType) (i : Iface) : Iface × Bool :=
  match ip with
  | .v4 =>
    match i.wanV4AddrGw with
    | none => (i, true)
    | some addr =>
      match i.wanClientIndexIpv4 addr with
      | none => (i, false)
      | some n => i.takeHeaders n .v4
  | .v6 =>
    match i.wanV6AddrGw with
    | none => (i, true)
    | some addr =>
      match i.wanClientIndexIpv6 addr with
      | none => (i, false)
      | some n => i.takeHeaders n .v6

/-- `handle_sta_header_add_evt`. -/
def handleStaHeaderAddEvt (fw : FirewallConf) (i : Iface) (g : Statics) :
    Iface × Statics :=
  if i.headerSet .v4 || i.headerSet .v6 then (i, g)
  else
    match i.findGateway .v4 with
    | (i, false) => (i, g)
    | (i, true) =>
      match i.findGateway .v6 with
      | (i, false) => (i, g)
      | (i, true) =>
        let (i, g) :=
          if i.headerPartialDefaultWan .v4 then i.handleRouteAddEvt alloc .v4 fw g
          else (i, g)
        if i.headerPartialDefaultWan .v6 then i.handleRouteAddEvt alloc .v6 fw g
        else (i, g)

/-! ## Addresses -/

/-- `is_global_ipv6_addr`. -/
def isGlobalIpv6Addr (addr : BitVec 128) : Bool :=
  addr.extractLsb' 96 32 &&& 0xFFC00000 ≠ 0xFE800000 &&& 0xFFC00000

/-- `init_fl_rule_ex`: the default rules are for all PDNs. -/
def initFlRuleEx (ip : IpType) (i : Iface) (g : Statics) : Statics :=
  let g := if i.modemPdnIndex ip = 0 then g.setFlt ip ((g.flt ip).reset ip) else g
  g.installWanFilteringRule i.conf

/-- The first address of the family, the second for IPv6, is that of a new PDN, or
the station gets its default rules (`init_fl_rule`). -/
def initFl (ip : IpType) (i : Iface) (g : Statics) : Iface × Statics :=
  if i.conf.isSta then
    i.addAt alloc ((List.range (Tether.numDftRules ip)).map (.dftFl ip)) g
  else
    let i := { i with modemPdnIndex := Function.update i.modemPdnIndex ip (g.numModemPdn ip) }
    let g :=
      { g with numModemPdn := Function.update g.numModemPdn ip (g.numModemPdn ip + 1) }
    (i, i.initFlRuleEx ip g)

/-- `handle_addr_evt`. -/
def handleAddrEvt (a : Addr) (i : Iface) (g : Statics) : Iface × Statics :=
  if i.conf.tx = [] ∨ i.conf.rx = [] then (i, g)
  else
    let i := { i with ipType := i.ipType.config a.ipType }
    match a with
    | .v6 addr =>
      if addr ∈ i.ipv6Addr then (i, g)
      else
        let n := i.ipv6Addr.length
        let (i, g) := i.addAt alloc [.dftRtV6 (2 * n), .dftRtV6 (2 * n + 1)] g
        let (i, g) := if n = 1 then i.initFl alloc .v6 g else (i, g)
        let (i, g) :=
          if i.conf.isSta && isGlobalIpv6Addr addr &&
              i.numIpv6DestFltRule < Tether.maxDftRtV6 then
            let (i, g) := i.addAt alloc [.ipv6DestFlt i.numIpv6DestFltRule] g
            ({ i with numIpv6DestFltRule := i.numIpv6DestFltRule + 1 }, g)
          else (i, g)
        let i :=
          if isGlobalIpv6Addr addr then { i with ipv6Prefix := addr.extractLsb' 64 64 }
          else i
        ({ i with ipv6Addr := i.ipv6Addr ++ [addr] }, g)
    | .v4 addr =>
      if i.wanV4AddrSet && addr = i.wanV4Addr then (i, g)
      else
        let g := if i.wanV4AddrSet then i.delAt [.dftRtV4] g else g
        let (i, g) := i.addAt alloc [.dftRtV4] g
        let (i, g) := if i.wanV4AddrSet then (i, g) else i.initFl alloc .v4 g
        ({ i with wanV4Addr := addr, wanV4AddrSet := true },
          if i.conf.isSta then g else { g with currWanIp := addr })

/-! ## The link goes down -/

/-- The rules and headers of the clients are deleted. -/
def cleanClients (i : Iface) (g : Statics) : Iface × Statics :=
  (List.range i.numWanClient).foldl (fun (i, g) n =>
    let (i, g) := i.deleteWanRtrules n .v4 g
    let (i, g) := i.deleteWanRtrules n .v6 g
    let g := if (i.clients n).headerSet .v4 then i.delAt [.clientHdr n .v4] g else g
    (i, if (i.clients n).headerSet .v6 then i.delAt [.clientHdr n .v6] g else g)) (i, g)

/-- `handle_down_evt`, as far as it is about one family: the default route. -/
def downRoute (ip : IpType) (i : Iface) (g : Statics) : Iface × Statics :=
  if i.active ip then
    let (i, g) := i.delDftFirewallRules ip g
    let (i, g) := i.handleRouteDelEvt ip g
    (i, i.postWanDownTetherEvt ip g)
  else (i, g)

/-- `dft_v4fl_rule_hdl` or `dft_v6fl_rule_hdl`, if they are set. -/
def delDftFl (ip : IpType) (i : Iface) (g : Statics) : Statics :=
  if i.hdl (.dftFl ip 0) ≠ 0 then
    i.delAt ((List.range (Tether.numDftRules ip)).map (.dftFl ip)) g
  else g

def delDftRtV6 (i : Iface) (g : Statics) : Statics :=
  i.delAt ((List.range (2 * i.ipv6Addr.length)).map .dftRtV6) g

/-- `handle_down_evt`, from where the default routes are gone. -/
def delAll (i : Iface) (g : Statics) : Statics :=
  let g := if i.ipType ≠ .v6 then i.delAt [.dftRtV4] g else g
  let g := if i.ipType ≠ .v4 then i.delDftRtV6 g else g
  let (i, g) := i.cleanClients g
  let g := if i.ipType ≠ .v6 ∧ i.conf.rx ≠ [] then i.delDftFl .v4 g else g
  let g := if i.ipType ≠ .v4 ∧ i.conf.rx ≠ [] then i.delDftFl .v6 g else g
  let g :=
    if i.ipType ≠ .v4 ∧ i.conf.rx ≠ [] ∧ 0 < i.numIpv6DestFltRule ∧
        i.numIpv6DestFltRule ≤ Tether.maxDftRtV6 then
      i.delAt ((List.range i.numIpv6DestFltRule).map .ipv6DestFlt) g
    else g
  let g := if i.hdl .hdrProcDummyV6 ≠ 0 then i.delAt [.hdrProcDummyV6] g else g
  if i.hdl .hdrDummyV6 ≠ 0 then i.delAt [.hdrDummyV6] g else g

/-- `handle_down_evt`. -/
def handleDownEvt (i : Iface) (g : Statics) : Statics :=
  if i.ipType = .null then g
  else
    let (i, g) := i.downRoute .v4 g
    let (i, g) := i.downRoute .v6 g
    i.delAll g

/-- The default route of a PDN goes with it, whichever family it was for. The
modem is told at once (`tell`) unless the other family follows. -/
def downRouteEx (ip : IpType) (tell : Bool) (i : Iface) (g : Statics) : Iface × Statics :=
  let g := { g with wanUp := Function.update g.wanUp ip false }
  let g := g.delWanFirewallRule ip
  let g := if tell then g.installWanFilteringRule i.conf else g
  let (i, g) := i.handleRouteDelEvt ip g
  (i, i.postWanDownTetherEvt ip g)

/-- `handle_down_evt_ex`. -/
def handleDownEvtEx (i : Iface) (g : Statics) : Statics :=
  if i.conf.isEmbms then
    { g with embmsIsOn := false }.installWanFilteringRule i.conf
  else
    let decV6 (g : Statics) : Statics := if 1 < i.ipv6Addr.length then g.decModemPdn .v6 else g
    match i.ipType with
    | .null => g
    | .v4 =>
      let g := g.decModemPdn .v4
      let g :=
        if i.isDefaultGateway then (i.downRouteEx .v4 true g).2.clearDevName .v6
        else g
      i.delAt [.dftRtV4] (g.clearFltIfLast i.conf .v4)
    | .v6 =>
      let g := decV6 g
      let g :=
        if i.isDefaultGateway then (i.downRouteEx .v6 true g).2.clearDevName .v4
        else g
      i.delDftRtV6 (g.clearFltIfLast i.conf .v6)
    | .max =>
      let g := decV6 (g.decModemPdn .v4)
      let g :=
        -- the flag is read once for both families
        if i.isDefaultGateway then
          let (i, g) := i.downRouteEx .v4 false g
          let (i, g) := i.downRouteEx .v6 false g
          { g with wanUpDevName := "" }.installWanFilteringRule i.conf
        else g
      let g := (g.clearFltIfLast i.conf .v4).clearFltIfLast i.conf .v6
      i.delDftRtV6 (i.delAt [.dftRtV4] g)

end Iface

/-! ## Events -/

/-- The default route of `IPA_WAN_UPSTREAM_ROUTE_ADD_EVENT`. The gateway comes
with it as far as `IPA_WAN_MSG_IPv6_ADDR_GW_LEN` is defined. -/
inductive Upstream
  | v4 (gw : Option (BitVec 32))
  | v6 (gw : Option (BitVec 128))

def Upstream.ipType : Upstream → IpType
  | .v4 _ => .v4
  | .v6 _ => .v6

/-- The events an instance gets, for the interface of a number. Where the file is
read, what is in it comes with the event. -/
inductive WanEvent
  | addrAdd (ifNum : Nat) (a : Addr)
  | upstreamRouteAdd (ifNum : Nat) (u : Upstream) (fw : FirewallConf)
  | upstreamRouteDel (ifNum : Nat) (ip : IpType)
  | neighClientIpAddrAdd (ifNum : Nat) (mac : Mac) (a : Addr) (fw : FirewallConf)
  | firewallChange (fw : FirewallConf)
  | linkDown (ifNum : Nat)
  | wlanLinkDown (ifNum : Nat)

namespace Iface

variable (alloc : Alloc)

/-- The gateway is noted. -/
def setGateway (u : Upstream) (i : Iface) : Iface :=
  match u with
  | .v4 (some gw) => { i with wanV4AddrGw := some gw }
  | .v6 (some gw) => { i with wanV6AddrGw := some gw }
  | _ => i

def hasGateway : Upstream → Bool
  | .v4 gw => gw.isSome
  | .v6 gw => gw.isSome

/-- `IPA_WAN_UPSTREAM_ROUTE_ADD_EVENT` for this interface. -/
def handleUpstreamRouteAdd (u : Upstream) (fw : FirewallConf) (i : Iface)
    (g : Statics) : Iface × Statics :=
  let ip := u.ipType
  if i.ipType.has ip = false then (i, g)
  -- the route comes before the address
  else if ip = .v6 ∧ i.ipv6Prefix = 0 then (i, g)
  else
    let (i, g) :=
      if i.active ip then (i, g)
      else
        let (i, g) :=
          if hasGateway u then (i.setGateway u).handleStaHeaderAddEvt alloc fw g
          else (i, g)
        if i.active ip then (i, g) else i.handleRouteAddEvt alloc ip fw g
    (i, i.postWanUpTetherEvt ip g)

/-- The gateway of IPv4 is forgotten with the route. -/
def forgetGateway (ip : IpType) (i : Iface) : Iface :=
  match ip with
  | .v4 => { i with wanV4AddrGw := none }
  | .v6 => i

/-- `IPA_WAN_UPSTREAM_ROUTE_ADD_EVENT` for another interface. -/
def handleOtherRouteAdd (ip : IpType) (i : Iface) (g : Statics) : Iface × Statics :=
  if i.active ip then (i.forgetGateway ip).leaveRoute ip g else (i, g)

/-- `IPA_WAN_UPSTREAM_ROUTE_DEL_EVENT` for this interface. -/
def handleUpstreamRouteDel (ip : IpType) (i : Iface) (g : Statics) : Iface × Statics :=
  if i.active ip then
    (i.forgetGateway ip).leaveRoute ip (i.postWanDownTetherEvt ip g)
  else (i, g)

/-- The interface's own address. -/
def isOwnAddr (a : Addr) (i : Iface) : Bool :=
  match a with
  | .v4 addr => addr = i.wanV4Addr
  | .v6 addr => addr ∈ i.ipv6Addr

/-- `IPA_NEIGH_CLIENT_IP_ADDR_ADD_EVENT`. -/
def handleNeighClientIpAddrAdd (mac : Mac) (a : Addr) (fw : FirewallConf) (i : Iface)
    (g : Statics) : Iface × Statics :=
  if i.conf.staMode = .wlanWan ∧ i.isOwnAddr a = true then (i, g)
  else if mac = 0 then (i, g)
  else
    let (i, g) := i.handleWanHdrInit alloc mac g
    match i.handleWanClientIpaddr mac a g with
    | none => (i, g)
    | some (i, g) =>
      let (i, g) := i.handleWanClientRouteRule alloc mac a.ipType g
      i.handleStaHeaderAddEvt alloc fw g

/-- `del_dft_firewall_rules` and `config_dft_firewall_rules`. -/
def refreshDftFirewall (ip : IpType) (fw : FirewallConf) (i : Iface) (g : Statics) :
    Iface × Statics :=
  if i.active ip then
    let (i, g) := i.delDftFirewallRules ip g
    i.configDftFirewallRules alloc ip fw g
  else (i, g)

/-- `del_wan_firewall_rule` and `config_wan_firewall_rule`. -/
def refreshWanFirewall (ip : IpType) (fw : FirewallConf) (i : Iface) (g : Statics) :
    Statics :=
  (g.delWanFirewallRule ip).configWanFirewallRule i.conf ip fw

/-- `IPA_FIREWALL_CHANGE_EVENT`. -/
def handleFirewallChange (fw : FirewallConf) (i : Iface) (g : Statics) :
    Iface × Statics :=
  if i.conf.isSta then
    let (i, g) := i.refreshDftFirewall alloc .v4 fw g
    i.refreshDftFirewall alloc .v6 fw g
  else if i.isDefaultGateway = false then (i, g)
  else
    match i.ipType with
    | .null => (i, g)
    | .v4 => (i, (i.refreshWanFirewall .v4 fw g).installWanFilteringRule i.conf)
    | .v6 => (i, (i.refreshWanFirewall .v6 fw g).installWanFilteringRule i.conf)
    | .max =>
      (i, (i.refreshWanFirewall .v6 fw (i.refreshWanFirewall .v4 fw g)).installWanFilteringRule
        i.conf)

/-- `event_callback`. An instance whose link is down is deleted. -/
def eventCallback (ev : WanEvent) (i : Iface) (g : Statics) : Option Iface × Statics :=
  let keep (x : Iface × Statics) : Option Iface × Statics := (some x.1, x.2)
  match ev with
  | .addrAdd ifNum a =>
    if a.isZero then (some i, g)
    else if ifNum = i.conf.ipaIfNum ∧
        (a.ipType = .v4 ∨ i.ipv6Addr.length ≠ Tether.maxDftRtV6) then
      keep (i.handleAddrEvt alloc a g)
    else (some i, g)
  | .upstreamRouteAdd ifNum u fw =>
    if ifNum = i.conf.ipaIfNum then keep (i.handleUpstreamRouteAdd alloc u fw g)
    else keep (i.handleOtherRouteAdd u.ipType g)
  | .upstreamRouteDel ifNum ip =>
    if ifNum = i.conf.ipaIfNum then keep (i.handleUpstreamRouteDel ip g)
    else (some i, g)
  | .neighClientIpAddrAdd ifNum mac a fw =>
    if ifNum = i.conf.ipaIfNum then keep (i.handleNeighClientIpAddrAdd alloc mac a fw g)
    else (some i, g)
  | .firewallChange fw => keep (i.handleFirewallChange alloc fw g)
  | .linkDown ifNum =>
    if ifNum = i.conf.ipaIfNum then
      match i.conf.staMode with
      | .q6Wan => (none, i.handleDownEvtEx g)
      | .ecmWan => (none, i.handleDownEvt g)
      | .wlanWan => (some i, g)
    else (some i, g)
  | .wlanLinkDown ifNum =>
    if ifNum = i.conf.ipaIfNum ∧ i.conf.staMode = .wlanWan then
      (none, i.handleDownEvt g)
    else (some i, g)

end Iface

/-! ## All instances -/

/-- The instances, in the order of their registration, and what they share. -/
structure World where
  ifaces : List Iface
  statics : Statics

namespace World

variable (alloc : Alloc)

/-- `ProcessEvt`: the instances get the event in turn. -/
def deliver (ev : WanEvent) : List Iface → Statics → List Iface × Statics
  | [], g => ([], g)
  | i :: is, g =>
    let (i', g) := i.eventCallback alloc ev g
    let (is, g) := deliver ev is g
    (i'.toList ++ is, g)

def step (w : World) (ev : WanEvent) : World :=
  let (is, g) := deliver alloc ev w.ifaces w.statics
  ⟨is, g⟩

def run (w : World) (evs : List WanEvent) : World := evs.foldl (step alloc) w

end World

end Axon7.Wan

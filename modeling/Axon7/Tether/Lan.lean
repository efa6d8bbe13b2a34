import Axon7.Lib.Pool

/-!
# IPACM_Lan

A tethered interface, `IPACM_Lan` or `IPACM_Wlan`, and the filter rules it
keeps on its source pipe. Rules come and go with the addresses of the
interface, with the upstream and the downstream, and with software routing;
`IPACM_Config` counts them, and the count is the index the modem is told for
the next rule.

Modelled as built with `FEATURE_IPA_ANDROID` and `FEATURE_IPACM_HAL`, for an
interface with receive properties, the kernel granting every request. Routing
rules and clients are left to other files, and so is the content of a rule.
-/

namespace Axon7.Tether

open Axon7.Lib

/-- `ipa_ip_type` of a rule or an address. -/
inductive IpType
  | v4
  | v6
deriving DecidableEq

/-- `ip_type` of an interface. -/
inductive IfaceIpType
  | null
  | v4
  | v6
  | max
deriving DecidableEq

namespace IfaceIpType

/-- `ip_type == t || ip_type == IPA_IP_MAX`. -/
def has : IfaceIpType → IpType → Bool
  | .max, _ => true
  | .v4, .v4 => true
  | .v6, .v6 => true
  | _, _ => false

/-- `config_ip_type`. -/
def config (t : IpType) (ty : IfaceIpType) : IfaceIpType :=
  match t, ty with
  | .v4, .v4 => .v4
  | .v4, .max => .max
  | .v4, .v6 => .max
  | .v4, .null => .v4
  | .v6, .v6 => .v6
  | .v6, .max => .max
  | .v6, .v4 => .max
  | .v6, .null => .v6

end IfaceIpType

/-- The address of an `IPA_ADDR_ADD_EVENT`. -/
inductive Addr
  | v4 (addr : BitVec 32)
  | v6 (addr : BitVec 128)
deriving DecidableEq

namespace Addr

def ipType : Addr → IpType
  | .v4 _ => .v4
  | .v6 _ => .v6

def isZero : Addr → Bool
  | .v4 a => a = 0
  | .v6 a => a = 0

end Addr

/-! ## Filter rules -/

/-- The sets of filter rules, each with an array for the handles: `dft_v4fl_rule_hdl` and
`dft_v6fl_rule_hdl`, `ipv4_icmp_flt_rule_hdl` and `ipv6_icmp_flt_rule_hdl`,
`private_fl_rule_hdl`, `software_routing_fl_rule_hdl`, `wan_ul_fl_rule_hdl_v4` and
`wan_ul_fl_rule_hdl_v6`, for a station `lan_wan_fl_rule_hdl` and the end of
`dft_v6fl_rule_hdl`, and `ipv6_prefix_flt_rule_hdl`. -/
inductive RuleSet
  | dft (ip : IpType)
  | icmp (ip : IpType)
  | privateSubnet
  | swRouting (ip : IpType)
  | wanUl (ip : IpType)
  | staUl (ip : IpType)
  | ipv6Prefix
deriving DecidableEq

def RuleSet.ip : RuleSet → IpType
  | .dft ip => ip
  | .icmp ip => ip
  | .privateSubnet => .v4
  | .swRouting ip => ip
  | .wanUl ip => ip
  | .staUl ip => ip
  | .ipv6Prefix => .v6

/-- `IPV4_DEFAULT_FILTERTING_RULES` and `IPV6_DEFAULT_FILTERTING_RULES`. -/
def numDftRules : IpType → Nat
  | .v4 => 3
  | .v6 => 8

/-- `IPA_MAX_PRIVATE_SUBNET_ENTRIES`. -/
def maxPrivateSubnetEntries : Nat := 3

/-- `MAX_NUM_EXT_PROPS`, which is also `MAX_WAN_UL_FILTER_RULES`. -/
def maxNumExtProps : Nat := 25

/-- `MAX_DEFAULT_v6_ROUTE_RULES`. -/
def maxDftRtV6 : Nat := 2

/-- The filter rules the kernel has for the source pipe of the interface. -/
abbrev Kernel := Pool (IpType × Nat) RuleSet

/-- The handle the kernel gives next. -/
abbrev Alloc := Kernel → IpType → Nat

/-- The kernel gives handles that are not in use and not 0. -/
structure Alloc.Grants (alloc : Alloc) : Prop where
  fresh : ∀ (k : Kernel) ip, k.Fresh (ip, alloc k ip)
  ne_zero : ∀ k ip, alloc k ip ≠ 0

/-- A kernel that counts its handles up. -/
def nextHandle : Alloc := fun k _ => k.nextHandle

theorem nextHandle_grants : nextHandle.Grants where
  fresh k ip := k.fresh_nextHandle ip
  ne_zero _ _ := Nat.succ_ne_zero _

/-- `AddFilteringRule` with a table of `n` rules. -/
def addFilteringRule (alloc : Alloc) (r : RuleSet) : Nat → Kernel → List Nat × Kernel
  | 0, k => ([], k)
  | n + 1, k =>
    let hdl := alloc k r.ip
    let (hdls, k) := addFilteringRule alloc r n (k.add (r.ip, hdl) r)
    (hdl :: hdls, k)

/-- `DeleteFilteringHdls`: the handle 0 is skipped. -/
def deleteFilteringHdls (hdls : List Nat) (ip : IpType) (k : Kernel) : Kernel :=
  hdls.foldl (fun k hdl => if hdl = 0 then k else k.del (ip, hdl)) k

/-! ## The interface -/

/-- The category, an ODU in one of its two modes. -/
inductive IfaceKind
  | wlan
  | lan
  | oduRouter
  | oduBridge
deriving DecidableEq

/-- What an event handler reads of `IPACM_Wan` and `IPACM_Config`. -/
structure World where
  isWanUp : IpType → Bool
  backhaulIsStaMode : Bool
  ipaSwRtEnable : Bool
  numExtProps : IpType → Fin (maxNumExtProps + 1)

/-- The state of an interface, with the count of its filter rules and the
rules themselves. `num_wan_ul_fl_rule_v4` and `num_wan_ul_fl_rule_v6` are the
lengths of their arrays. -/
structure Lan where
  ipType : IfaceIpType
  numDftRtV6 : Nat
  ipv6Addr : List (BitVec 128)
  hdl : RuleSet → List Nat
  softwareroutingAct : Bool
  modemUlSet : IpType → Bool
  staUlSet : IpType → Bool
  isUpstreamSet : IpType → Bool
  isDownstreamSet : IpType → Bool
  isActive : Bool
  fltRuleCount : IpType → Int
  kernel : Kernel

/-- The arrays at first. `lan_wan_fl_rule_hdl` is not cleared. -/
def initHdl (lanWanFlRuleHdl : Nat) : RuleSet → List Nat
  | .dft ip => .replicate (numDftRules ip) 0
  | .icmp _ => [0]
  | .privateSubnet => .replicate maxPrivateSubnetEntries 0
  | .swRouting _ => [0]
  | .wanUl _ => []
  | .staUl .v4 => [lanWanFlRuleHdl]
  | .staUl .v6 => [0]
  | .ipv6Prefix => [0]

/-- The constructor. -/
def Lan.init (kind : IfaceKind) (w : World) (lanWanFlRuleHdl : Nat) : Lan where
  ipType := .null
  numDftRtV6 := 0
  ipv6Addr := []
  hdl := initHdl lanWanFlRuleHdl
  softwareroutingAct := false
  modemUlSet _ := false
  staUlSet _ := false
  isUpstreamSet :=
    if kind = .lan ∧ w.backhaulIsStaMode then fun _ => false else w.isWanUp
  isDownstreamSet _ := false
  isActive := true
  fltRuleCount _ := 0
  kernel := .empty

namespace Lan

variable (alloc : Alloc)

def increaseFltRuleCount (ip : IpType) (n : Nat) (s : Lan) : Lan :=
  { s with
    fltRuleCount := Function.update s.fltRuleCount ip (s.fltRuleCount ip + n) }

def decreaseFltRuleCount (ip : IpType) (n : Nat) (s : Lan) : Lan :=
  { s with
    fltRuleCount := Function.update s.fltRuleCount ip (s.fltRuleCount ip - n) }

/-- Rules are added and counted, and their handles put behind what is kept of
the array. -/
def install (r : RuleSet) (n : Nat) (kept : List Nat) (s : Lan) : Lan :=
  let (hdls, k) := addFilteringRule alloc r n s.kernel
  { s.increaseFltRuleCount r.ip n with
    kernel := k
    hdl := Function.update s.hdl r (kept ++ hdls) }

/-- What is in an array is deleted, and counted off as `n` rules. -/
def uninstall (r : RuleSet) (n : Nat) (s : Lan) : Lan :=
  { s.decreaseFltRuleCount r.ip n with
    kernel := deleteFilteringHdls (s.hdl r) r.ip s.kernel }

/-! ## IPACM_Iface -/

def initFlRule (ip : IpType) (s : Lan) : Lan :=
  s.install alloc (.dft ip) (numDftRules ip) []

def handleSoftwareRoutingEnable (s : Lan) : Lan :=
  if s.softwareroutingAct then s
  else
    { (s.install alloc (.swRouting .v4) 1 []).install alloc (.swRouting .v6) 1 [] with
      softwareroutingAct := true }

def handleSoftwareRoutingDisable (s : Lan) : Lan :=
  if s.softwareroutingAct then
    { (s.uninstall (.swRouting .v4) 1).uninstall (.swRouting .v6) 1 with
      softwareroutingAct := false }
  else s

/-! ## Rules for the uplink -/

def installIcmpFltRule (ip : IpType) (s : Lan) : Lan :=
  s.install alloc (.icmp ip) 1 []

/-- There are none for IPv6. -/
def addDummyPrivateSubnetFltRule (ip : IpType) (s : Lan) : Lan :=
  match ip with
  | .v4 => s.install alloc .privateSubnet maxPrivateSubnetEntries []
  | .v6 => s

def installIpv6PrefixFltRule (s : Lan) : Lan :=
  s.install alloc .ipv6Prefix 1 []

def deleteIpv6PrefixFltRule (s : Lan) : Lan :=
  s.uninstall .ipv6Prefix 1

/-- One rule for each extended property. -/
def handleUplinkFilterRule (w : World) (ip : IpType) (s : Lan) : Lan :=
  if (w.numExtProps ip).val = 0 then s
  else s.install alloc (.wanUl ip) (w.numExtProps ip) (s.hdl (.wanUl ip))

/-- For a modem backhaul. -/
def handleWanUpEx (w : World) (ip : IpType) (s : Lan) : Lan :=
  if s.modemUlSet ip then s
  else
    let s := s.handleUplinkFilterRule alloc w ip
    { s with modemUlSet := Function.update s.modemUlSet ip true }

/-- For a station backhaul. -/
def handleWanUp (ip : IpType) (s : Lan) : Lan :=
  if s.staUlSet ip then s
  else
    let s := s.install alloc (.staUl ip) 1 []
    { s with staUlSet := Function.update s.staUlSet ip true }

/-- What `handle_wan_down` and `handle_wan_down_v6` have in common. -/
def wanDown (ip : IpType) (isStaMode : Bool) (s : Lan) : Lan :=
  if isStaMode = false ∧ s.modemUlSet ip = true then
    if maxNumExtProps < (s.hdl (.wanUl ip)).length then s
    else if (s.hdl (.wanUl ip)).length = 0 then s
    else
      let s := s.uninstall (.wanUl ip) (s.hdl (.wanUl ip)).length
      { s with
        hdl := Function.update s.hdl (.wanUl ip) []
        modemUlSet := Function.update s.modemUlSet ip false }
  else
    let s := s.uninstall (.staUl ip) 1
    { s with staUlSet := Function.update s.staUlSet ip false }

/-- `handle_wan_down`, and `handle_wan_down_v6` for IPv6. -/
def handleWanDown (ip : IpType) (isStaMode : Bool) (s : Lan) : Lan :=
  match ip with
  | .v4 => s.wanDown .v4 isStaMode
  | .v6 => s.deleteIpv6PrefixFltRule.wanDown .v6 isStaMode

/-- The uplink is offloaded once upstream and downstream are there. -/
def offload (w : World) (ip : IpType) (isSta : Bool) (s : Lan) : Lan :=
  let s :=
    match ip with
    | .v4 => s
    | .v6 => s.installIpv6PrefixFltRule alloc
  if isSta then s.handleWanUp alloc ip else s.handleWanUpEx alloc w ip

/-! ## Addresses -/

/-- The address is configured, or is a second time the same. -/
def handleAddrEvt (a : Addr) (s : Lan) : Bool × Lan :=
  let s := { s with ipType := s.ipType.config a.ipType }
  match a with
  | .v4 _ => (true, (s.initFlRule alloc .v4).installIcmpFltRule alloc .v4)
  | .v6 addr =>
    if addr ∈ s.ipv6Addr then (false, s)
    else
      let s := { s with ipv6Addr := s.ipv6Addr ++ [addr] }
      let s :=
        if s.numDftRtV6 = 0 then
          (s.installIcmpFltRule alloc .v6).initFlRule alloc .v6
        else s
      (true, { s with numDftRtV6 := s.numDftRtV6 + 1 })

/-- No address of the family yet, or room for another of IPv6. -/
def wantsAddr (a : Addr) (s : Lan) : Bool :=
  (match a.ipType with
    | .v4 => s.ipType ≠ .v4 ∧ s.ipType ≠ .max
    | .v6 => s.ipType ≠ .v6 ∧ s.ipType ≠ .max) ||
  (a.ipType = .v6 ∧ s.numDftRtV6 ≠ maxDftRtV6)

/-- The upstream that was set before. -/
def noteUpstream (w : World) (s : Lan) : Lan :=
  { s with isUpstreamSet := fun ip => w.isWanUp ip || s.isUpstreamSet ip }

def checkSwRouting (w : World) (s : Lan) : Lan :=
  if w.ipaSwRtEnable then s.handleSoftwareRoutingEnable alloc else s

/-- `IPA_ADDR_ADD_EVENT` of an ODU in bridge mode. -/
def addrAddBridge (a : Addr) (s : Lan) : Lan :=
  let s :=
    if a.ipType = .v6 ∧ s.numDftRtV6 = 0 then
      { s with numDftRtV6 := s.numDftRtV6 + 1 }
    else s
  s.addDummyPrivateSubnetFltRule alloc a.ipType

/-- `IPA_ADDR_ADD_EVENT`. -/
def addrAdd (kind : IfaceKind) (w : World) (a : Addr) (s : Lan) : Lan :=
  if a.isZero then s
  else if kind = .oduBridge then s.addrAddBridge alloc a
  else if s.wantsAddr a then
    let (configured, s) := s.handleAddrEvt alloc a
    if configured then
      ((s.addDummyPrivateSubnetFltRule alloc a.ipType).noteUpstream w).checkSwRouting
        alloc w
    else s
  else if kind = .wlan then s
  else s.checkSwRouting alloc w

/-! ## Upstream and downstream -/

/-- `IPA_HANDLE_WAN_UP_TETHER` and `IPA_HANDLE_WAN_UP_V6_TETHER`. A LAN
interface leaves after it has cleaned up its clients when the IPv4 backhaul is
a station. -/
def wanUpTether (kind : IfaceKind) (w : World) (ip : IpType) (isSta : Bool)
    (s : Lan) : Lan :=
  if kind ≠ .wlan ∧ ip = .v4 ∧ isSta then s
  else if s.ipType.has ip then
    if s.isUpstreamSet ip then s
    else
      let s := { s with isUpstreamSet := Function.update s.isUpstreamSet ip true }
      if s.isDownstreamSet ip then s.offload alloc w ip isSta else s
  else s

/-- `IPA_HANDLE_WAN_DOWN_TETHER` and `IPA_HANDLE_WAN_DOWN_V6_TETHER`. -/
def wanDownTether (ip : IpType) (isSta : Bool) (s : Lan) : Lan :=
  if s.ipType.has ip then
    if s.isUpstreamSet ip then
      let s := { s with isUpstreamSet := Function.update s.isUpstreamSet ip false }
      if s.isDownstreamSet ip then s.handleWanDown ip isSta else s
    else s
  else s

/-- `IPA_DOWNSTREAM_ADD`. -/
def downstreamAdd (w : World) (ip : IpType) (s : Lan) : Lan :=
  if s.isDownstreamSet ip then s
  else
    let s := { s with isDownstreamSet := Function.update s.isDownstreamSet ip true }
    if s.isUpstreamSet ip ∧ s.ipType.has ip then
      s.offload alloc w ip w.backhaulIsStaMode
    else s

/-- `IPA_DOWNSTREAM_DEL`. -/
def downstreamDel (w : World) (ip : IpType) (s : Lan) : Lan :=
  if s.isDownstreamSet ip then
    let s := { s with isDownstreamSet := Function.update s.isDownstreamSet ip false }
    if s.isUpstreamSet ip then s.handleWanDown ip w.backhaulIsStaMode else s
  else s

/-! ## Interface down -/

/-- The default rules of IPv4 and the private subnets. -/
def deleteV4Rules (s : Lan) : Lan :=
  if s.ipType = .v6 then s
  else
    let s := s.uninstall (.icmp .v4) 1
    let s :=
      if (s.hdl (.dft .v4)).headD 0 = 0 then s
      else s.uninstall (.dft .v4) (numDftRules .v4)
    s.uninstall .privateSubnet maxPrivateSubnetEntries

/-- The default rules of IPv6. -/
def deleteV6Rules (s : Lan) : Lan :=
  if s.ipType = .v4 then s
  else
    let s := s.uninstall (.icmp .v6) 1
    if (s.hdl (.dft .v6)).headD 0 = 0 then s
    else s.uninstall (.dft .v6) (numDftRules .v6)

def downUplink (w : World) (ip : IpType) (s : Lan) : Lan :=
  if w.isWanUp ip then s.handleWanDown ip w.backhaulIsStaMode else s

/-- `handle_down_evt`. The table of private subnets never has more entries
than there are handles for them, so the check for that is left out. -/
def handleDownEvt (w : World) (s : Lan) : Lan :=
  let s :=
    if s.ipType = .null then s
    else (((s.downUplink w .v4).downUplink w .v6).deleteV4Rules).deleteV6Rules
  { s.handleSoftwareRoutingDisable with isActive := false }

end Lan

/-! ## Events -/

inductive Event
  | addrAdd (a : Addr)
  | wanUpTether (ip : IpType) (isSta : Bool)
  | wanDownTether (ip : IpType) (isSta : Bool)
  | downstreamAdd (ip : IpType)
  | downstreamDel (ip : IpType)
  | swRoutingEnable
  | swRoutingDisable
  | linkDown

/-- `event_callback`, for events of this interface. -/
def Lan.eventCallback (alloc : Alloc) (kind : IfaceKind) (s : Lan) (w : World)
    (ev : Event) : Lan :=
  if s.isActive then
    match ev with
    | .addrAdd a => s.addrAdd alloc kind w a
    | .wanUpTether ip isSta => s.wanUpTether alloc kind w ip isSta
    | .wanDownTether ip isSta => s.wanDownTether ip isSta
    | .downstreamAdd ip => s.downstreamAdd alloc w ip
    | .downstreamDel ip => s.downstreamDel w ip
    | .swRoutingEnable => s.handleSoftwareRoutingEnable alloc
    | .swRoutingDisable => s.handleSoftwareRoutingDisable
    | .linkDown => s.handleDownEvt w
  else s

/-- A run of events, each with the world it meets. -/
def Lan.run (alloc : Alloc) (kind : IfaceKind) (s : Lan)
    (evs : List (World × Event)) : Lan :=
  evs.foldl (fun s e => s.eventCallback alloc kind e.1 e.2) s

end Axon7.Tether

import Axon7.Tether.Lan
import Axon7.Config.Xml

/-!
# The tables of rules for the modem

`flt_rule_v4` and `flt_rule_v6`, with `num_v4_flt_rule` and `num_v6_flt_rule`:
the filter rules for the downlink that `IPACM_Wan` hands to the modem. All
instances write to the same two arrays, at offsets that are fixed for the
default rules and follow the count for the others.

What is kept of a rule is what it is for, and the meta data of the receive
property it is made from, which tells the modem for which PDN it is.
-/

namespace Axon7.Wan

open Axon7.Tether (IpType)

/-! ## The firewall -/

/-- An entry of the firewall configuration. `ihlBased` says whether one of the
attributes that `check_dft_firewall_rules_attr_mask` looks for is in the mask;
`attrib` is the rest of them. -/
structure FirewallEntry where
  ipVsn : Nat
  protocol : Nat
  ihlBased : Bool
  attrib : Nat
deriving DecidableEq

/-- `IPACM_firewall_conf_t`, as it is read from the file. -/
structure FirewallConf where
  firewallEnable : Bool
  ruleActionAccept : Bool
  entries : List FirewallEntry

/-- What there is if the file cannot be read. -/
def FirewallConf.dft : FirewallConf := ⟨false, false, []⟩

/-- `IPACM_FIREWALL_IPPROTO_TCP`, `_UDP` and `_TCP_UDP`. -/
def ipprotoTcp : Nat := 6

def ipprotoUdp : Nat := 17

def ipprotoTcpUdp : Nat := 253

/-- The version of IP that an entry is for. -/
def ipVsnOf : IpType → Nat
  | .v4 => 4
  | .v6 => 6

/-- An entry for TCP and UDP is split in two. -/
def FirewallEntry.protocols (e : FirewallEntry) : List Nat :=
  if e.protocol = ipprotoTcpUdp then [ipprotoTcp, ipprotoUdp] else [e.protocol]

namespace FirewallConf

/-- `check_dft_firewall_rules_attr_mask`. -/
def checkAttrMask (fw : FirewallConf) : Bool :=
  fw.entries.any fun e => e.ipVsn = 6 && e.ihlBased

/-- The entries that become rules, with the protocols. -/
def split (ip : IpType) (fw : FirewallConf) : List (FirewallEntry × Nat) :=
  if fw.firewallEnable then
    (fw.entries.filter fun e => e.ipVsn = ipVsnOf ip).flatMap fun e =>
      e.protocols.map fun p => (e, p)
  else []

/-- IPv6 fragments get a rule of their own. -/
def hasFragRule (ip : IpType) (fw : FirewallConf) : Bool :=
  ip = .v6 && fw.firewallEnable && fw.checkAttrMask

end FirewallConf

/-! ## Rules -/

inductive TcpFlag
  | fin
  | syn
  | rst
deriving DecidableEq

/-- A filter rule for the modem. A firewall rule, and the rule for what no other
matches, pass to the routing table of the modem (`isException`) or on to the
clients. -/
inductive FltRule
  | dft (ip : IpType) (i : Nat)
  | embms (ip : IpType)
  | tcpCtrl (flag : TcpFlag) (metaData : Nat)
  | icmp (ip : IpType) (metaData : Nat)
  | alg (isSrc : Bool) (port protocol : Nat) (metaData : Nat)
  | frag (metaData : Nat)
  | firewall (e : FirewallEntry) (protocol : Nat) (isException : Bool) (metaData : Nat)
  | last (ip : IpType) (isException : Bool) (metaData : Nat)
deriving DecidableEq

/-- `IPA_V2_NUM_DEFAULT_WAN_FILTER_RULE_IPV4` and `_IPV6`. For IPv6 the three
rules for TCP control are counted in. -/
def numDftWanFltRule : IpType → Nat
  | .v4 => 2
  | .v6 => 7

/-- The rules `add_dft_filtering_rule` makes: for IPv6, those of
`IPA_V2_NUM_MULTICAST_WAN_FILTER_RULE_IPV6` and
`IPA_V2_NUM_FRAG_WAN_FILTER_RULE_IPV6`. -/
def numDftRule : IpType → Nat
  | .v4 => 2
  | .v6 => 3 + 1

/-! ## The table -/

/-- One of the arrays, and how much of it is in use. A slot that is zeroed has no
rule. -/
structure Table where
  rule : Nat → Option FltRule
  num : Nat

namespace Table

/-- As it is at the start. -/
def empty : Table := ⟨fun _ => none, 0⟩

/-- Rules are copied to the array from the offset on, and counted. -/
def addRules (offset : Nat) : List FltRule → Table → Table
  | [], t => t
  | r :: rs, t =>
    addRules (offset + 1) rs
      { rule := Function.update t.rule offset (some r), num := t.num + 1 }

/-- The slots from `offset` on are zeroed. -/
def zeroFrom (offset : Nat) (t : Table) : Table :=
  { t with rule := fun i => if i < offset then t.rule i else none }

/-- What is in use. -/
def sent (t : Table) : List (Option FltRule) := (List.range t.num).map t.rule

/-- `add_dft_filtering_rule`. -/
def addDftFilteringRule (ip : IpType) (offset : Nat) (t : Table) : Table :=
  t.addRules offset ((List.range (numDftRule ip)).map (.dft ip))

/-- `add_tcpv6_filtering_rule`. -/
def addTcpv6FilteringRule (metaData : Nat → Nat) (offset : Nat) (t : Table) : Table :=
  t.addRules offset
    [.tcpCtrl .fin (metaData 0), .tcpCtrl .syn (metaData 0), .tcpCtrl .rst (metaData 0)]

/-- The rules of `add_icmp_alg_rules`. There are rules for ALG ports for IPv4
only. -/
def icmpAlgRules (algPorts : List (Nat × Nat)) (metaData : Nat → Nat) :
    IpType → List FltRule
  | .v4 =>
    .icmp .v4 (metaData 0) ::
      (algPorts.map (fun p => .alg true p.1 p.2 (metaData 0)) ++
        algPorts.map (fun p => .alg false p.1 p.2 (metaData 0)))
  | .v6 => [.icmp .v6 (metaData 1)]

/-- `add_icmp_alg_rules`. -/
def addIcmpAlgRules (algPorts : List (Nat × Nat)) (metaData : Nat → Nat)
    (offset : Nat) (ip : IpType) (t : Table) : Table :=
  t.addRules offset (icmpAlgRules algPorts metaData ip)

/-- Where a packet goes that no rule matches. -/
def lastIsException (fw : FirewallConf) (isBridge : Bool) : IpType → Bool
  | .v4 => if fw.firewallEnable then fw.ruleActionAccept else isBridge
  | .v6 => fw.firewallEnable && fw.ruleActionAccept

/-- The meta data of the last rule: the IPv6 one is made from the second receive
property. -/
def lastMetaData (metaData : Nat → Nat) : IpType → Nat
  | .v4 => metaData 0
  | .v6 => metaData 1

/-- The rules of `config_dft_firewall_rules_ex`. -/
def firewallRules (fw : FirewallConf) (isBridge : Bool) (metaData : Nat → Nat)
    (ip : IpType) : List FltRule :=
  (if fw.hasFragRule ip then [.frag (metaData 0)] else []) ++
    (fw.split ip).map (fun e => .firewall e.1 e.2 (!fw.ruleActionAccept) (metaData 0)) ++
    [.last ip (lastIsException fw isBridge ip) (lastMetaData metaData ip)]

/-- `config_dft_firewall_rules_ex`. -/
def configDftFirewallRulesEx (fw : FirewallConf) (isBridge : Bool)
    (metaData : Nat → Nat) (offset : Nat) (ip : IpType) (t : Table) : Table :=
  t.addRules offset (firewallRules fw isBridge metaData ip)

/-- `config_wan_firewall_rule`. -/
def configWanFirewallRule (algPorts : List (Nat × Nat)) (fw : FirewallConf)
    (isBridge : Bool) (metaData : Nat → Nat) (ip : IpType) (t : Table) : Table :=
  let t :=
    match ip with
    | .v4 => t
    | .v6 => t.addTcpv6FilteringRule metaData t.num
  let t := { t with num := numDftWanFltRule ip }
  let t := t.addIcmpAlgRules algPorts metaData t.num ip
  t.configDftFirewallRulesEx fw isBridge metaData t.num ip

/-- `del_wan_firewall_rule`. -/
def delWanFirewallRule (ip : IpType) (t : Table) : Table :=
  { t.zeroFrom (numDftWanFltRule ip) with num := numDftWanFltRule ip }

/-- The default rules, from `init_fl_rule_ex` of the first PDN. -/
def reset (ip : IpType) (t : Table) : Table :=
  { t with num := 0 }.addDftFilteringRule ip 0

end Table

end Axon7.Wan

/-!
# The policy of the firewall

In station mode the filter rules of the firewall are for the driver, and in modem
mode for the modem. What is forwarded goes to NAT or to the routing table of the
WAN, and what is for the host is an exception for the driver, and for the modem
something that goes to its own table. The rules are tried in their order, and the
last one takes whatever there is.
-/

namespace Axon7.Wan.Policy

open Axon7.Config (FwEntry FltAttr Dir)
open Axon7.Tether (IpType)

/-! ## Rules -/

/-- `struct ipa_rule_attrib`: what an entry of the firewall may name, and what a rule
may name besides. -/
structure RuleAttrib where
  entry : FwEntry
  fragment : Bool
  metaDataNamed : Bool
  metaData : BitVec 32
  metaDataMask : BitVec 32

inductive FltAction
  | passToException
  | passToDstNat
  | passToRouting
deriving DecidableEq

/-- `rt_tbl_lan_v4`, `rt_tbl_wan_v6` and `rt_tbl_wan_dl`. -/
inductive RtTbl
  | lanV4
  | wanV6
  | wanDl
deriving DecidableEq

/-- `struct ipa_flt_rule`. -/
structure FltRule where
  ip : IpType
  action : FltAction
  rtTbl : Option RtTbl
  attrib : RuleAttrib

/-- `IPACM_firewall_conf_t`. -/
structure FirewallConfig where
  entries : List FwEntry
  ruleActionAccept : Bool
  firewallEnable : Bool

/-- `IPACM_FIREWALL_IPPROTO_TCP`, `_UDP`, `_TCP_UDP` and `_ICMP6`. -/
def tcp : BitVec 8 := 6

def udp : BitVec 8 := 17

def tcpUdp : BitVec 8 := 253

def icmp6 : BitVec 8 := 58

/-- The flag of the protocol. -/
def protocolAttr : IpType → FltAttr
  | .v4 => .protocol
  | .v6 => .nextHdr

def protocolOf : IpType → FwEntry → BitVec 8
  | .v4, e => e.protocol
  | .v6, e => e.nextHdr

def setProtocol (x : BitVec 8) : IpType → FwEntry → FwEntry
  | .v4, e => { e with protocol := x }
  | .v6, e => { e with nextHdr := x }

namespace RuleAttrib

variable (rx : RuleAttrib)

/-- What an entry names, and what the receive property does. -/
def withEntry (e : FwEntry) : RuleAttrib where
  entry := { e with attribMask := e.attribMask ∪ rx.entry.attribMask }
  fragment := rx.fragment
  metaDataNamed := rx.metaDataNamed
  metaData := rx.metaData
  metaDataMask := rx.metaDataMask

/-- Any destination. -/
def anyDst : IpType → RuleAttrib
  | .v4 => { rx with entry := (rx.entry.addAttr (.addr .dst)).setV4 .dst fun _ => ⟨0, 0⟩ }
  | .v6 =>
    { rx with
      entry := (rx.entry.addAttr (.addr .dst)).setV6 .dst
        fun _ => ⟨fun _ => 0, fun _ => 0⟩ }

/-- A next header of IPv6. -/
def withNextHdr (x : BitVec 8) : RuleAttrib :=
  { rx with entry := { rx.entry.addAttr .nextHdr with nextHdr := x } }

/-- Fragments. -/
def withFragment : RuleAttrib := { rx with fragment := true }

end RuleAttrib

/-- An entry for TCP and UDP is split in two. -/
def entryRules (ip : IpType) (action : FltAction) (rtTbl : Option RtTbl) (rx : RuleAttrib)
    (e : FwEntry) : List FltRule :=
  let attrib := rx.withEntry e
  let rule (x : BitVec 8) : FltRule :=
    ⟨ip, action, rtTbl, { attrib with entry := setProtocol x ip attrib.entry }⟩
  if protocolOf ip e = tcpUdp then [rule tcp, rule udp] else [⟨ip, action, rtTbl, attrib⟩]

/-- The version of IP of an entry's packets. -/
def ipVsn : IpType → Int
  | .v4 => 4
  | .v6 => 6

namespace FirewallConfig

variable (cfg : FirewallConfig)

/-- `check_dft_firewall_rules_attr_mask`. -/
def checkDftFirewallRulesAttrMask : Bool :=
  cfg.entries.any fun e => e.ipVsn = 6 &&
    [FltAttr.portRange .src, .portRange .dst, .type, .code, .spi, .port .src, .port .dst].any
      fun a => decide (a ∈ e.attribMask)

/-- `rule_v4` and `rule_v6`. -/
def numRules : IpType → Nat
  | .v4 => cfg.entries.countP fun e => e.ipVsn = 4
  | .v6 => cfg.entries.countP fun e => e.ipVsn ≠ 4

/-- The loop over the entries. -/
def entriesRules (ip : IpType) (action : FltAction) (rtTbl : Option RtTbl)
    (rx : RuleAttrib) : List FltRule :=
  if cfg.firewallEnable then
    (cfg.entries.filter fun e => e.ipVsn = ipVsn ip).flatMap
      (entryRules ip action rtTbl rx)
  else []

/-- IPv6 fragments get a rule of their own. -/
def hasFragRule (ip : IpType) : Bool :=
  ip = .v6 && cfg.firewallEnable && cfg.checkDftFirewallRulesAttrMask

end FirewallConfig

/-! ## config_dft_firewall_rules -/

/-- What passes goes to NAT behind a router, and to routing behind a bridge. -/
def passV4 (isRouter : Bool) : FltAction := if isRouter then .passToDstNat else .passToRouting

/-- The default rule of a station. -/
def dftRule (cfg : FirewallConfig) (rx : RuleAttrib) (isRouter : Bool) :
    IpType → FltRule
  | .v4 =>
    { ip := .v4
      action :=
        if cfg.firewallEnable then
          if cfg.ruleActionAccept then .passToException else passV4 isRouter
        else passV4 isRouter
      rtTbl := some .lanV4
      attrib := rx.anyDst .v4 }
  | .v6 =>
    { ip := .v6
      action :=
        if cfg.firewallEnable then
          if cfg.ruleActionAccept then .passToException else .passToRouting
        else .passToRouting
      rtTbl := some .wanV6
      attrib := rx.anyDst .v6 }

/-- `config_dft_firewall_rules`: the rules of a station, in their order. -/
def configDftFirewallRules (cfg : FirewallConfig) (rx : RuleAttrib) (isRouter : Bool)
    (ip : IpType) : List FltRule :=
  let frag : List FltRule :=
    if cfg.hasFragRule ip then [⟨.v6, .passToException, none, rx.withFragment⟩] else []
  match ip with
  | .v4 =>
    let action :=
      if cfg.ruleActionAccept then passV4 isRouter else FltAction.passToException
    if cfg.numRules .v4 = 0 then frag ++ [dftRule cfg rx isRouter .v4]
    else
      frag ++ cfg.entriesRules .v4 action (some .lanV4) rx ++ [dftRule cfg rx isRouter .v4]
  | .v6 =>
    let icmp : FltRule := ⟨.v6, .passToException, none, rx.withNextHdr icmp6⟩
    let action :=
      if cfg.ruleActionAccept then FltAction.passToRouting else .passToException
    if cfg.numRules .v6 = 0 then frag ++ [icmp, dftRule cfg rx isRouter .v6]
    else
      frag ++ cfg.entriesRules .v6 action (some .wanV6) rx ++
        [icmp, dftRule cfg rx isRouter .v6]

/-! ## config_dft_firewall_rules_ex -/

/-- The table that goes with an action of an IPv4 rule. -/
def tblV4 (action : FltAction) : RtTbl := if action = .passToRouting then .wanDl else .lanV4

/-- `config_dft_firewall_rules_ex`: the rules for the modem, in their order. The receive
properties are those of both families. -/
def configDftFirewallRulesEx (cfg : FirewallConfig) (rx : Fin 2 → RuleAttrib)
    (isWanBridgeMode : Bool) (ip : IpType) : List FltRule :=
  let frag : List FltRule :=
    if cfg.hasFragRule ip then [⟨.v6, .passToRouting, some .wanDl, (rx 0).withFragment⟩]
    else []
  match ip with
  | .v4 =>
    let action : FltAction :=
      if cfg.ruleActionAccept then .passToDstNat else .passToRouting
    let dft : FltAction :=
      if cfg.firewallEnable then
        if cfg.ruleActionAccept then .passToRouting else .passToDstNat
      else if isWanBridgeMode then .passToRouting
      else .passToDstNat
    frag ++ cfg.entriesRules .v4 action (some (tblV4 action)) (rx 0) ++
      [⟨.v4, dft, some (tblV4 dft), (rx 0).anyDst .v4⟩]
  | .v6 =>
    let tbl : RtTbl := if cfg.ruleActionAccept then .wanV6 else .wanDl
    let dft : RtTbl :=
      if cfg.firewallEnable then if cfg.ruleActionAccept then .wanDl else .wanV6
      else .wanV6
    frag ++ cfg.entriesRules .v6 .passToRouting (some tbl) (rx 0) ++
      [⟨.v6, .passToRouting, some dft, (rx 1).anyDst .v6⟩]

end Axon7.Wan.Policy

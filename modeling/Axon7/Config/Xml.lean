import Axon7.Lib.Text
import Axon7.Lib.XmlTree
import Axon7.Netlink.Route

/-!
# The configuration file

`ipacm_cfg_xml_parse_tree` reads the interfaces, private subnets and ALG ports
of the configuration from an element tree. Each of the three is a repeated
element with an array of its own. A text is compared with the keywords by as
much of them as the text is long, so that it may also be the beginning of one.

Texts are shorter than `MAX_XML_STR_LEN`, which is what the buffer for them has.
A field that was not written since the configuration was cleared is none.
-/

namespace Axon7.Config

open Axon7.Lib

/-! ## Texts -/

/-- What comparing without regard to case goes by. -/
def foldCase (text : List Char) : List Char := text.map Char.toLower

/-- `IPACM_util_icmp_string`: the lengths match and the characters do. -/
def icmpString (text tag : List Char) : Bool := foldCase text = foldCase tag

/-- `strncasecmp(content_buf, tag, str_size) == 0`, `str_size` being the length
of the text. -/
def beginsTag (text tag : List Char) : Bool := (foldCase text).isPrefixOf (foldCase tag)

/-- The first keyword that begins with the text. -/
def keyword {α : Type} (table : List (List Char × α)) (text : List Char) : Option α :=
  (table.find? fun k => beginsTag text k.1).map Prod.snd

/-- `strlcpy` into a buffer of the size. -/
def strlcpy (size : Nat) (text : List Char) : List Char := text.take (size - 1)

/-- What is used of the C library: `inet_addr` with `ntohl`, `inet_pton` for IPv6
with `ntohl` of each word, and what `atoi` gives for a number that is no `int`. -/
structure XmlLibc where
  inetAddr : List Char → BitVec 32
  inetPton6 : List Char → Fin 4 → BitVec 32
  atoiOut : List Char → Int32

def XmlLibc.atoi (c : XmlLibc) (text : List Char) : Int := (Lib.atoi c.atoiOut text).toInt

/-! ## The configuration -/

/-- `ipacm_iface_type`. -/
inductive IfaceType
  | lanIf
  | wlanIf
  | wanIf
  | virtualIf
  | ethIf
  | embmsIf
  | oduIf
  | unknownIf
deriving DecidableEq

/-- `ipacm_cradle_iface_mode`. -/
inductive IfaceMode
  | router
  | bridge
deriving DecidableEq

/-- `ipacm_wlan_access_mode`. -/
inductive WlanMode
  | full
  | internet
deriving DecidableEq

/-- `IPPROTO_TCP` and `IPPROTO_UDP`. -/
inductive AlgProtocol
  | tcp
  | udp
deriving DecidableEq

/-- `ipa_ifi_dev_name_t`. -/
structure IfaceEntry where
  ifaceName : Option (List Char)
  ifCat : Option IfaceType
  ifMode : Option IfaceMode
  wlanMode : Option WlanMode

/-- `ipa_private_subnet`. -/
structure SubnetEntry where
  subnetAddr : Option (BitVec 32)
  subnetMask : Option (BitVec 32)

/-- `ipacm_alg`. -/
structure AlgEntry where
  protocol : Option AlgProtocol
  port : Option (BitVec 16)

/-- `IPA_IFACE_NAME_LEN`. -/
def ipaIfaceNameLen : Nat := 16

/-- `MAX_XML_STR_LEN`. -/
def maxXmlStrLen : Nat := 120

/-- `IPA_MAX_IFACE_ENTRIES`. -/
def maxIfaceEntries : Nat := 20

/-- `IPA_MAX_PRIVATE_SUBNET_ENTRIES`. -/
def maxSubnetEntries : Nat := 3

/-- `IPA_MAX_ALG_ENTRIES`. -/
def maxAlgEntries : Nat := 20

/-- `IPACM_conf_t`. An array that was written outside of is none. -/
structure CfgConf where
  iface : Option (Rows maxIfaceEntries IfaceEntry)
  subnet : Option (Rows maxSubnetEntries SubnetEntry)
  alg : Option (Rows maxAlgEntries AlgEntry)
  natMaxEntries : Int
  routerModeEnable : Bool
  oduEmbmsEnable : Bool
  numWlanGuestAp : Nat
  ipPassthroughMode : Bool

def IfaceEntry.blank : IfaceEntry := ⟨none, none, none, none⟩

def SubnetEntry.blank : SubnetEntry := ⟨none, none⟩

def AlgEntry.blank : AlgEntry := ⟨none, none⟩

/-- After `memset`. -/
def CfgConf.zero : CfgConf where
  iface := some (.blank _ .blank)
  subnet := some (.blank _ .blank)
  alg := some (.blank _ .blank)
  natMaxEntries := 0
  routerModeEnable := false
  oduEmbmsEnable := false
  numWlanGuestAp := 0
  ipPassthroughMode := false

/-! ## Tags -/

inductive CfgTag
  | system
  | odu
  | ipacmCfg
  | ipacmIfaceCfg
  | iface
  | ipacmPrivateSubnetCfg
  | subnet
  | ipacmAlg
  | alg
  | ipacmNat
  | ipPassthroughFlag
  | ipPassthroughMode
  | oduMode
  | oduEmbmsOffload
  | name
  | category
  | mode
  | wlanMode
  | subnetAddress
  | subnetMask
  | protocol
  | port
  | natMaxEntries
deriving DecidableEq

/-- The tags, with their texts, in the order they are tried. -/
def cfgTags : List (List Char × CfgTag) :=
  [("system".toList, .system), ("ODUCFG".toList, .odu), ("IPACM".toList, .ipacmCfg),
    ("IPACMIface".toList, .ipacmIfaceCfg), ("Iface".toList, .iface),
    ("IPACMPrivateSubnet".toList, .ipacmPrivateSubnetCfg), ("Subnet".toList, .subnet),
    ("IPACMALG".toList, .ipacmAlg), ("ALG".toList, .alg), ("IPACMNAT".toList, .ipacmNat),
    ("IPPassthroughFlag".toList, .ipPassthroughFlag),
    ("IPPassthroughMode".toList, .ipPassthroughMode), ("OduMode".toList, .oduMode),
    ("eMBMS_offload".toList, .oduEmbmsOffload), ("Name".toList, .name),
    ("Category".toList, .category), ("Mode".toList, .mode), ("WlanMode".toList, .wlanMode),
    ("SubnetAddress".toList, .subnetAddress), ("SubnetMask".toList, .subnetMask),
    ("Protocol".toList, .protocol), ("Port".toList, .port),
    ("MaxNatEntries".toList, .natMaxEntries)]

def cfgTagOf (name : List Char) : Option CfgTag :=
  (cfgTags.find? fun k => icmpString name k.1).map Prod.snd

/-- The tags whose children are read. -/
def CfgTag.descends : CfgTag → Bool
  | .system | .odu | .ipacmCfg | .ipacmIfaceCfg | .iface | .ipacmPrivateSubnetCfg
  | .subnet | .ipacmAlg | .alg | .ipacmNat | .ipPassthroughFlag => true
  | _ => false

/-- The categories, in the order they are tried. -/
def categoryTags : List (List Char × IfaceType) :=
  [("WAN".toList, .wanIf), ("LAN".toList, .lanIf), ("WLAN".toList, .wlanIf),
    ("VIRTUAL".toList, .virtualIf), ("UNKNOWN".toList, .unknownIf), ("ETH".toList, .ethIf),
    ("ODU".toList, .oduIf)]

def modeTags : List (List Char × IfaceMode) :=
  [("ROUTER".toList, .router), ("BRIDGE".toList, .bridge)]

def wlanModeTags : List (List Char × WlanMode) :=
  [("full".toList, .full), ("internet".toList, .internet)]

def protocolTags : List (List Char × AlgProtocol) :=
  [("TCP".toList, .tcp), ("UDP".toList, .udp)]

/-- `router` and `bridge` of an ODU. -/
def oduModeTags : List (List Char × Bool) :=
  [("router".toList, true), ("bridge".toList, false)]

/-! ## ipacm_cfg_xml_parse_tree -/

namespace CfgConf

/-- The entry of the interface that was begun last. -/
def writeIface (f : IfaceEntry → IfaceEntry) (cfg : CfgConf) : CfgConf :=
  { cfg with iface := cfg.iface.bind (Rows.write f) }

def writeSubnet (f : SubnetEntry → SubnetEntry) (cfg : CfgConf) : CfgConf :=
  { cfg with subnet := cfg.subnet.bind (Rows.write f) }

def writeAlg (f : AlgEntry → AlgEntry) (cfg : CfgConf) : CfgConf :=
  { cfg with alg := cfg.alg.bind (Rows.write f) }

/-- What is done at an element. -/
def step (c : XmlLibc) (cfg : CfgConf) : Visit CfgTag → CfgConf
  | (.iface, _) => { cfg with iface := cfg.iface.map Rows.start }
  | (.subnet, _) => { cfg with subnet := cfg.subnet.map Rows.start }
  | (.alg, _) => { cfg with alg := cfg.alg.map Rows.start }
  | (.ipPassthroughMode, some content) =>
    { cfg with ipPassthroughMode := c.atoi content ≠ 0 }
  | (.oduMode, some content) =>
    match keyword oduModeTags content with
    | some router => { cfg with routerModeEnable := router }
    | none => cfg
  | (.oduEmbmsOffload, some content) =>
    { cfg with oduEmbmsEnable := c.atoi content ≠ 0 }
  | (.name, some content) =>
    cfg.writeIface fun e =>
      { e with ifaceName := some (strlcpy ipaIfaceNameLen (strlcpy maxXmlStrLen content)) }
  | (.category, some content) =>
    match keyword categoryTags content with
    | some ifCat => cfg.writeIface fun e => { e with ifCat := some ifCat }
    | none => cfg
  | (.mode, some content) =>
    match keyword modeTags content with
    | some ifMode => cfg.writeIface fun e => { e with ifMode := some ifMode }
    | none => cfg
  | (.wlanMode, some content) =>
    match keyword wlanModeTags content with
    | some wlanMode =>
      { cfg.writeIface fun e => { e with wlanMode := some wlanMode } with
        numWlanGuestAp :=
          if wlanMode = .internet then cfg.numWlanGuestAp + 1 else cfg.numWlanGuestAp }
    | none => cfg
  | (.subnetAddress, some content) =>
    cfg.writeSubnet fun e => { e with subnetAddr := some (c.inetAddr content) }
  | (.subnetMask, some content) =>
    cfg.writeSubnet fun e => { e with subnetMask := some (c.inetAddr content) }
  | (.protocol, some content) =>
    match keyword protocolTags content with
    | some protocol => cfg.writeAlg fun e => { e with protocol := some protocol }
    | none => cfg
  | (.port, some content) =>
    cfg.writeAlg fun e => { e with port := some (BitVec.ofInt 16 (c.atoi content)) }
  | (.natMaxEntries, some content) => { cfg with natMaxEntries := c.atoi content }
  | _ => cfg

end CfgConf

/-- `ipacm_cfg_xml_parse_tree`. -/
def ipacmCfgXmlParseTree (c : XmlLibc) (tree : XmlNode) (cfg : CfgConf) : CfgConf :=
  tree.walk cfgTagOf CfgTag.descends (CfgConf.step c) cfg

end Axon7.Config

/-!
# The firewall file

`IPACM_firewall_xml_parse_tree` reads the entries of the firewall from an
element tree, one for each `Firewall` element. What an entry says of a packet is
in the elements below it, some of them in a container of their own. A packet has
a source and a destination, and what the parser does for the one it does for the
other.

Texts are shorter than `MAX_XML_STR_LEN`, and addresses are ones that the C
library knows. The fields of the two families are one `union` in the code; here
they are apart, so that an entry is to have elements of one family only.
-/

namespace Axon7.Config

open Axon7.Lib

/-! ## Entries -/

/-- Source or destination. -/
inductive Dir
  | src
  | dst
deriving DecidableEq

/-- What a port is of. -/
inductive PortKind
  | tcp
  | udp
  | tcpUdp
deriving DecidableEq

/-- The flags of `attrib_mask`: `IPA_FLT_SRC_ADDR` and the others. -/
inductive FltAttr
  | addr (d : Dir)
  | tos
  | protocol
  | tc
  | nextHdr
  | port (d : Dir)
  | portRange (d : Dir)
  | type
  | code
  | spi
deriving DecidableEq

/-- An IPv4 address with its mask, in host order. -/
structure V4Addr where
  addr : BitVec 32
  mask : BitVec 32

/-- An IPv6 address with its mask, by words in host order. -/
structure V6Addr where
  addr : Fin 4 → BitVec 32
  mask : Fin 4 → BitVec 32

/-- `src_port`, `src_port_lo` and `src_port_hi`, or those of the destination. -/
structure PortAttrib where
  port : BitVec 16
  lo : BitVec 16
  hi : BitVec 16

/-- `IPACM_extd_firewall_entry_conf_t`. -/
structure FwEntry where
  attribMask : Finset FltAttr
  ipVsn : Int
  v4 : Dir → V4Addr
  tos : BitVec 8
  protocol : BitVec 8
  v6 : Dir → V6Addr
  tc : BitVec 8
  nextHdr : BitVec 8
  ports : Dir → PortAttrib
  type : BitVec 8
  code : BitVec 8
  spi : BitVec 32

def FwEntry.blank : FwEntry where
  attribMask := ∅
  ipVsn := 0
  v4 _ := ⟨0, 0⟩
  tos := 0
  protocol := 0
  v6 _ := ⟨fun _ => 0, fun _ => 0⟩
  tc := 0
  nextHdr := 0
  ports _ := ⟨0, 0, 0⟩
  type := 0
  code := 0
  spi := 0

/-- `IPACM_MAX_FIREWALL_ENTRIES`. -/
def maxFirewallEntries : Nat := 50

/-- `IPACM_firewall_conf_t`. An array that was written outside of is none. -/
structure FwConf where
  entries : Option (Rows maxFirewallEntries FwEntry)
  ruleActionAccept : Bool
  firewallEnable : Bool

def FwConf.zero : FwConf := ⟨some (.blank _ .blank), false, false⟩

/-! ## Tags -/

inductive FwTag
  | system
  | mobileAPFirewallCfg
  | firewall
  | firewallEnabled
  | firewallPktsAllowed
  | ipFamily
  /-- `IPV4SourceAddress` and `IPV4DestinationAddress`, with an address and a mask. -/
  | v4Address (d : Dir)
  | v4IPAddress (d : Dir)
  | v4SubnetMask (d : Dir)
  | v4TypeOfService
  | tosValue
  | tosMask
  | v4NextHeaderProtocol
  /-- `IPV6SourceAddress` and `IPV6DestinationAddress`, with an address and a prefix. -/
  | v6Address (d : Dir)
  | v6IPAddress (d : Dir)
  | v6Prefix (d : Dir)
  | v6TrafficClass
  | trfClsValue
  | trfClsMask
  | v6NextHeaderProtocol
  /-- `TCPSource` and the others, with a port and a range. -/
  | portsOf (k : PortKind) (d : Dir)
  | port (k : PortKind) (d : Dir)
  | portRange (k : PortKind) (d : Dir)
  | icmpType
  | icmpCode
  | espSpi
deriving DecidableEq

/-- The tags, with their texts, in the order they are tried. -/
def fwTags : List (List Char × FwTag) :=
  [("system".toList, .system), ("MobileAPFirewallCfg".toList, .mobileAPFirewallCfg),
    ("Firewall".toList, .firewall), ("FirewallEnabled".toList, .firewallEnabled),
    ("FirewallPktsAllowed".toList, .firewallPktsAllowed), ("IPFamily".toList, .ipFamily),
    ("IPV4SourceAddress".toList, .v4Address .src),
    ("IPV4SourceIPAddress".toList, .v4IPAddress .src),
    ("IPV4SourceSubnetMask".toList, .v4SubnetMask .src),
    ("IPV4DestinationAddress".toList, .v4Address .dst),
    ("IPV4DestinationIPAddress".toList, .v4IPAddress .dst),
    ("IPV4DestinationSubnetMask".toList, .v4SubnetMask .dst),
    ("IPV4TypeOfService".toList, .v4TypeOfService), ("TOSValue".toList, .tosValue),
    ("TOSMask".toList, .tosMask),
    ("IPV4NextHeaderProtocol".toList, .v4NextHeaderProtocol),
    ("IPV6SourceAddress".toList, .v6Address .src),
    ("IPV6SourceIPAddress".toList, .v6IPAddress .src),
    ("IPV6SourcePrefix".toList, .v6Prefix .src),
    ("IPV6DestinationAddress".toList, .v6Address .dst),
    ("IPV6DestinationIPAddress".toList, .v6IPAddress .dst),
    ("IPV6DestinationPrefix".toList, .v6Prefix .dst),
    ("IPV6TrafficClass".toList, .v6TrafficClass), ("TrfClsValue".toList, .trfClsValue),
    ("TrfClsMask".toList, .trfClsMask),
    ("IPV6NextHeaderProtocol".toList, .v6NextHeaderProtocol),
    ("TCPSource".toList, .portsOf .tcp .src), ("TCPSourcePort".toList, .port .tcp .src),
    ("TCPSourceRange".toList, .portRange .tcp .src),
    ("TCPDestination".toList, .portsOf .tcp .dst),
    ("TCPDestinationPort".toList, .port .tcp .dst),
    ("TCPDestinationRange".toList, .portRange .tcp .dst),
    ("UDPSource".toList, .portsOf .udp .src), ("UDPSourcePort".toList, .port .udp .src),
    ("UDPSourceRange".toList, .portRange .udp .src),
    ("UDPDestination".toList, .portsOf .udp .dst),
    ("UDPDestinationPort".toList, .port .udp .dst),
    ("UDPDestinationRange".toList, .portRange .udp .dst), ("ICMPType".toList, .icmpType),
    ("ICMPCode".toList, .icmpCode), ("ESPSPI".toList, .espSpi),
    ("TCP_UDPSource".toList, .portsOf .tcpUdp .src),
    ("TCP_UDPSourcePort".toList, .port .tcpUdp .src),
    ("TCP_UDPSourceRange".toList, .portRange .tcpUdp .src),
    ("TCP_UDPDestination".toList, .portsOf .tcpUdp .dst),
    ("TCP_UDPDestinationPort".toList, .port .tcpUdp .dst),
    ("TCP_UDPDestinationRange".toList, .portRange .tcpUdp .dst)]

def fwTagOf (name : List Char) : Option FwTag :=
  (fwTags.find? fun k => icmpString name k.1).map Prod.snd

/-- The tags whose children are read. -/
def FwTag.descends : FwTag → Bool
  | .system | .mobileAPFirewallCfg | .firewall | .firewallEnabled | .firewallPktsAllowed
  | .v4Address _ | .v4TypeOfService | .v6Address _ | .v6TrafficClass | .portsOf _ _ => true
  | _ => false

/-! ## IPACM_firewall_xml_parse_tree -/

/-- `mask_v6` at a word: nothing is written unless the index is one that it knows. -/
def setMaskWord (index : Int) (i : Fin 4) (mask : Fin 4 → BitVec 32) : Fin 4 → BitVec 32 :=
  if 0 ≤ index then
    match Netlink.maskV6 index.toNat with
    | some w => Function.update mask i (BitVec.ofNat 32 w)
    | none => mask
  else mask

local instance neZero_four : NeZero 4 := ⟨Nat.succ_ne_zero 3⟩

/-- The loop over the words of a mask. -/
def setMaskWords (prefixLen : Int) (mask : Fin 4 → BitVec 32) : Fin 4 → BitVec 32 :=
  ([0, 1, 2, 3].foldl (fun (acc : (Fin 4 → BitVec 32) × Int) (maskIndex : Fin 4) =>
      if 32 ≤ acc.2 then (setMaskWord 32 maskIndex acc.1, acc.2 - 32)
      else (setMaskWord acc.2 maskIndex acc.1, 0)) (mask, prefixLen)).1

/-- The port and a range of it: the range replaces the port. -/
def PortAttrib.setRange (range : Int) (p : PortAttrib) : PortAttrib :=
  if range ≠ 0 then ⟨0, p.port, BitVec.ofInt 16 (p.port.toNat + range)⟩ else p

namespace FwEntry

/-- A flag more in `attrib_mask`. -/
def addAttr (a : FltAttr) (e : FwEntry) : FwEntry :=
  { e with attribMask := insert a e.attribMask }

def setV4 (d : Dir) (f : V4Addr → V4Addr) (e : FwEntry) : FwEntry :=
  { e with v4 := Function.update e.v4 d (f (e.v4 d)) }

def setV6 (d : Dir) (f : V6Addr → V6Addr) (e : FwEntry) : FwEntry :=
  { e with v6 := Function.update e.v6 d (f (e.v6 d)) }

def setPorts (d : Dir) (f : PortAttrib → PortAttrib) (e : FwEntry) : FwEntry :=
  { e with ports := Function.update e.ports d (f (e.ports d)) }

end FwEntry

/-- A byte of a number read. -/
def XmlLibc.byte (c : XmlLibc) (text : List Char) : BitVec 8 := BitVec.ofInt 8 (c.atoi text)

/-- What is done to the current entry at an element. -/
def fwUpd (c : XmlLibc) : Visit FwTag → Option (FwEntry → FwEntry)
  | (.ipFamily, some t) => some fun e => { e with ipVsn := c.atoi t }
  | (.v4Address d, _) => some (.addAttr (.addr d))
  | (.v4IPAddress d, some t) => some (.setV4 d fun a => { a with addr := c.inetAddr t })
  | (.v4SubnetMask d, some t) => some (.setV4 d fun a => { a with mask := c.inetAddr t })
  | (.v4TypeOfService, _) => some (.addAttr .tos)
  | (.tosValue, some t) => some fun e => { e with tos := c.byte t }
  | (.tosMask, some t) => some fun e => { e with tos := e.tos &&& c.byte t }
  | (.v4NextHeaderProtocol, some t) =>
    some fun e => { e.addAttr .protocol with protocol := c.byte t }
  | (.v6Address d, _) => some (.addAttr (.addr d))
  | (.v6IPAddress d, some t) => some (.setV6 d fun a => { a with addr := c.inetPton6 t })
  | (.v6Prefix d, some t) =>
    some (.setV6 d fun a => { a with mask := setMaskWords (c.atoi t) a.mask })
  | (.v6TrafficClass, _) => some (.addAttr .tc)
  | (.trfClsValue, some t) => some fun e => { e with tc := c.byte t }
  | (.trfClsMask, some t) => some fun e => { e with tc := e.tc &&& c.byte t }
  | (.v6NextHeaderProtocol, some t) =>
    some fun e => { e.addAttr .nextHdr with nextHdr := c.byte t }
  | (.port _ d, some t) =>
    some (.setPorts d fun p => { p with port := BitVec.ofInt 16 (c.atoi t) })
  | (.portRange _ d, some t) =>
    some fun e => (e.setPorts d (PortAttrib.setRange (c.atoi t))).addAttr
      (if c.atoi t ≠ 0 then .portRange d else .port d)
  | (.icmpType, some t) => some fun e => { e.addAttr .type with type := c.byte t }
  | (.icmpCode, some t) => some fun e => { e.addAttr .code with code := c.byte t }
  | (.espSpi, some t) =>
    some fun e => { e.addAttr .spi with spi := BitVec.ofInt 32 (c.atoi t) }
  | _ => none

/-- What the parser writes to the entries. -/
def fwReader (c : XmlLibc) : Reader FwTag FwEntry where
  starts t := t = .firewall
  upd := fwUpd c

/-- What is done at an element. -/
def FwConf.step (c : XmlLibc) (cfg : FwConf) (v : Visit FwTag) : FwConf :=
  match v with
  | (.firewallPktsAllowed, some t) => { cfg with ruleActionAccept := c.atoi t = 1 }
  | (.firewallEnabled, some t) => { cfg with firewallEnable := c.atoi t = 1 }
  | _ => { cfg with entries := (fwReader c).step cfg.entries v }

/-- `IPACM_firewall_xml_parse_tree`. -/
def ipacmFirewallXmlParseTree (c : XmlLibc) (tree : XmlNode) (cfg : FwConf) : FwConf :=
  tree.walk fwTagOf FwTag.descends (FwConf.step c) cfg

end Axon7.Config

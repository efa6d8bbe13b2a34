import Axon7.Lib.TlvWalk

/-!
# Decoding netlink messages

`ipa_nl_decode_nlmsg` and the decoders of the messages that it knows. The loop steps
from message to message; each decoder gets the buffer and what is left of its length,
and writes to one `ipa_nl_msg_t`, whatever the message.

The buffer is at address 0. Where a decoder reads is a parameter here, `Source`: the
place of the message header, and how much it takes the attributes to fill.
-/

namespace Axon7.Netlink

open Axon7.Lib

abbrev Byte := BitVec 8

/-! ## Constants -/

def rtmNewlink : Nat := 16

def rtmDellink : Nat := 17

def rtmNewaddr : Nat := 20

def rtmNewroute : Nat := 24

def rtmDelroute : Nat := 25

def rtmNewneigh : Nat := 28

def rtmDelneigh : Nat := 29

def afInet : Nat := 2

def afBridge : Nat := 7

def afInet6 : Nat := 10

def iffUp : Nat := 0x1

def iffRunning : Nat := 0x40

def iffLowerUp : Nat := 0x10000

/-- `IPA_NLA_PARAM_PREFIXADDR`. -/
def nlaParamPrefixaddr : Nat := 0x1

/-- `IPA_RTA_PARAM_DST` and the others. -/
def rtaParamDst : Nat := 0x1

def rtaParamSrc : Nat := 0x2

def rtaParamGateway : Nat := 0x4

def rtaParamIif : Nat := 0x8

def rtaParamOif : Nat := 0x10

def rtaParamPriority : Nat := 0x80

/-- `sizeof(struct nlmsghdr)`. -/
def nlmsghdrSize : Nat := 16

/-! ## What is decoded -/

/-- `struct sockaddr_storage`: the family and the bytes behind it. -/
structure SockaddrStorage where
  ssFamily : Nat
  data : List Byte

/-- The size of `__data`, all of which is copied. -/
def sockaddrData : Nat := 126

def SockaddrStorage.zero : SockaddrStorage := ⟨0, List.replicate sockaddrData 0⟩

/-- `struct ifinfomsg`. -/
structure Ifinfomsg where
  ifiFamily : Nat
  ifiIndex : Nat
  ifiFlags : Nat
  ifiChange : Nat

/-- `struct ifaddrmsg`. -/
structure Ifaddrmsg where
  ifaFamily : Nat
  ifaIndex : Nat

/-- `struct ndmsg`. -/
structure Ndmsg where
  ndmFamily : Nat
  ndmIfindex : Nat
  ndmState : Nat

/-- `struct rtmsg`. -/
structure Rtmsg where
  rtmFamily : Nat
  rtmDstLen : Nat
  rtmTable : Nat
  rtmProtocol : Nat
  rtmScope : Nat
  rtmType : Nat

/-- `ipa_nl_addr_info_t`. -/
structure AddrInfo where
  metainfo : Ifaddrmsg
  paramMask : Nat
  prefixAddr : SockaddrStorage

/-- `ipa_nl_neigh_info_t`. -/
structure NeighInfo where
  metainfo : Ndmsg
  paramMask : Nat
  localAddr : SockaddrStorage
  lladdrHwaddr : List Byte

/-- `ipa_nl_route_info_t`. -/
structure RouteInfo where
  metainfo : Rtmsg
  paramMask : Nat
  dstAddr : SockaddrStorage
  srcAddr : SockaddrStorage
  gatewayAddr : SockaddrStorage
  iifIndex : Nat
  oifIndex : Nat
  priority : Nat

/-- `ipa_nl_msg_t`. -/
structure NlMsg where
  type : Nat
  linkEvent : Bool
  nlLinkInfo : Ifinfomsg
  nlAddrInfo : AddrInfo
  nlNeighInfo : NeighInfo
  nlRouteInfo : RouteInfo

/-- After `memset`. -/
def NlMsg.zero : NlMsg where
  type := 0
  linkEvent := false
  nlLinkInfo := ⟨0, 0, 0, 0⟩
  nlAddrInfo := ⟨⟨0, 0⟩, 0, .zero⟩
  nlNeighInfo := ⟨⟨0, 0, 0⟩, 0, .zero, List.replicate 14 0⟩
  nlRouteInfo := ⟨⟨0, 0, 0, 0, 0, 0⟩, 0, .zero, .zero, .zero, 0, 0, 0⟩

/-! ## What is posted -/

/-- `ipacm_event_data_addr`, from `malloc`: a field that is not written is none. -/
structure EventAddr where
  isV4 : Bool
  ifaceName : Option String
  ifIndex : Nat
  ipv4AddrGw : Option Nat
  ipv4Addr : Option Nat
  ipv4AddrMask : Option Nat
  ipv6Addr : Option (List Nat)
  ipv6AddrMask : List (Option Nat)
  ipv6AddrGw : Option (List Nat)
deriving DecidableEq

/-- For an interface and a family, with no address yet. -/
def EventAddr.new (isV4 : Bool) (ifIndex : Nat) : EventAddr where
  isV4 := isV4
  ifaceName := none
  ifIndex := ifIndex
  ipv4AddrGw := none
  ipv4Addr := none
  ipv4AddrMask := none
  ipv6Addr := none
  ipv6AddrMask := [none, none, none, none]
  ipv6AddrGw := none

/-- `ipacm_event_data_all`, cleared before it is written. -/
structure EventAll where
  isV4 : Bool
  ifIndex : Nat
  ipv4Addr : Nat
  ipv6Addr : List Nat
  macAddr : List Byte
  ifaceName : String
deriving DecidableEq

inductive NlEvent
  | linkUp (ifIndex : Nat)
  | linkDown (ifIndex : Nat)
  | usbLinkUp (ifIndex : Nat)
  | addrAdd (data : EventAddr)
  | routeAdd (data : EventAddr)
  | routeDel (data : EventAddr)
  | bridgeLinkUp (data : EventAll)
  | newNeigh (data : EventAll)
  | delNeigh (data : EventAll)
deriving DecidableEq

/-! ## Addresses -/

/-- Four bytes in network order, as `ntohl` gives them. -/
def ntohlBytes (bytes : List Byte) : Nat :=
  bytes.foldl (fun n b => 256 * n + b.toNat) 0

/-- `IPACM_EVENT_COPY_ADDR_v4`, and `ntohl`. -/
def SockaddrStorage.v4 (addr : SockaddrStorage) : Nat := ntohlBytes (addr.data.take 4)

/-- `IPACM_EVENT_COPY_ADDR_v6`, and `ntohl` of each word. -/
def SockaddrStorage.v6 (addr : SockaddrStorage) : List Nat :=
  [0, 4, 8, 12].map fun i => ntohlBytes ((addr.data.drop i).take 4)

/-- `ntohl` of a word. -/
def ntohl (w : Nat) : Nat :=
  (w % 256) * 2 ^ 24 + (w / 2 ^ 8 % 256) * 2 ^ 16 + (w / 2 ^ 16 % 256) * 2 ^ 8 +
    w / 2 ^ 24 % 256

/-- `mask_v6`: nothing is written unless the index is a multiple of four up to 32. -/
def maskV6 (index : Nat) : Option Nat :=
  if index % 4 = 0 ∧ index ≤ 32 then some (2 ^ 32 - 2 ^ (32 - index)) else none

/-- A mask word is written where there is one. -/
def setMask (mask : List (Option Nat)) (maskIndex index : Nat) : List (Option Nat) :=
  match maskV6 index with
  | some w => mask.set maskIndex (some w)
  | none => mask

/-- The loop over the mask words. `other` is the word that a length below 32 goes to. -/
def maskWords (other : Nat → Nat) (dstLen : Nat) : List (Option Nat) :=
  (([0, 1, 2, 3].foldl (fun (acc : List (Option Nat) × Nat) maskIndex =>
      if acc.2 ≥ 32 then (setMask acc.1 maskIndex 32, acc.2 - 32)
      else (setMask acc.1 (other maskIndex) acc.2, 0))
    ([none, none, none, none], dstLen)).1).map (Option.map ntohl)

/-! ## The decoders -/

/-- Where a decoder reads: the header of the message, and behind the header of the
family, which has a size, so many bytes of attributes. -/
structure Source where
  header : Nat
  window : Nat → Nat

namespace Source

variable (mem : Memory) (src : Source)

/-- `NLMSG_DATA`. -/
def data : Nat := src.header + nlmsghdrSize

/-- `ipa_nl_decode_rtm_link`. -/
def decodeRtmLink : Ifinfomsg where
  ifiFamily := (mem src.data).toNat
  ifiIndex := mem.u32 (src.data + 4)
  ifiFlags := mem.u32 (src.data + 8)
  ifiChange := mem.u32 (src.data + 12)

/-- The loop over the attributes, behind a header of that size. -/
def attrs {σ : Type} (hdr : Nat) (step : σ → Nat → Nat → σ) (info : σ) : Option σ :=
  walk step mem (src.data + hdr) (src.window hdr) info

/-- `sizeof(struct ifaddrmsg)`. -/
def ifaddrmsgSize : Nat := 8

/-- An attribute of an address: `IFA_ADDRESS`. -/
def addrAttr (info : AddrInfo) (rtaType rtaData : Nat) : AddrInfo :=
  if rtaType = 1 then
    { info with
      prefixAddr := ⟨info.metainfo.ifaFamily, mem.bytes rtaData sockaddrData⟩
      paramMask := info.paramMask ||| nlaParamPrefixaddr }
  else info

/-- `ipa_nl_decode_rtm_addr`. -/
def decodeRtmAddr (info : AddrInfo) : Option AddrInfo :=
  src.attrs mem ifaddrmsgSize (addrAttr mem)
    { info with
      metainfo := ⟨(mem src.data).toNat, mem.u32 (src.data + 4)⟩
      paramMask := 0 }

/-- `sizeof(struct ndmsg)`. -/
def ndmsgSize : Nat := 12

/-- An attribute of a neighbour: `NDA_DST` and `NDA_LLADDR`. -/
def neighAttr (info : NeighInfo) (rtaType rtaData : Nat) : NeighInfo :=
  if rtaType = 1 then
    { info with localAddr := ⟨info.metainfo.ndmFamily, mem.bytes rtaData sockaddrData⟩ }
  else if rtaType = 2 then { info with lladdrHwaddr := mem.bytes rtaData 14 }
  else info

/-- `ipa_nl_decode_rtm_neigh`. -/
def decodeRtmNeigh (info : NeighInfo) : Option NeighInfo :=
  src.attrs mem ndmsgSize (neighAttr mem)
    { info with
      metainfo := ⟨(mem src.data).toNat, mem.u32 (src.data + 4), mem.u16 (src.data + 8)⟩
      paramMask := 0 }

/-- `sizeof(struct rtmsg)`. -/
def rtmsgSize : Nat := 12

/-- An attribute of a route: `RTA_DST`, `RTA_SRC`, `RTA_GATEWAY`, `RTA_IIF`, `RTA_OIF`
and `RTA_PRIORITY`. -/
def routeAttr (info : RouteInfo) (rtaType rtaData : Nat) : RouteInfo :=
  let addr : SockaddrStorage := ⟨info.metainfo.rtmFamily, mem.bytes rtaData sockaddrData⟩
  match rtaType with
  | 1 => { info with dstAddr := addr, paramMask := info.paramMask ||| rtaParamDst }
  | 2 => { info with srcAddr := addr, paramMask := info.paramMask ||| rtaParamSrc }
  | 5 => { info with gatewayAddr := addr, paramMask := info.paramMask ||| rtaParamGateway }
  | 3 => { info with
      iifIndex := mem.u32 rtaData, paramMask := info.paramMask ||| rtaParamIif }
  | 4 => { info with
      oifIndex := mem.u32 rtaData, paramMask := info.paramMask ||| rtaParamOif }
  | 6 => { info with
      priority := mem.u32 rtaData, paramMask := info.paramMask ||| rtaParamPriority }
  | _ => info

/-- `ipa_nl_decode_rtm_route`. -/
def decodeRtmRoute (info : RouteInfo) : Option RouteInfo :=
  src.attrs mem rtmsgSize (routeAttr mem)
    { info with
      metainfo :=
        { rtmFamily := (mem src.data).toNat
          rtmDstLen := (mem (src.data + 1)).toNat
          rtmTable := (mem (src.data + 4)).toNat
          rtmProtocol := (mem (src.data + 5)).toNat
          rtmScope := (mem (src.data + 6)).toNat
          rtmType := (mem (src.data + 7)).toNat }
      paramMask := 0 }

end Source

/-! ## One message -/

/-- What the function keeps from message to message: `ipa_nl_msg_t`, the variable
`if_ipipv4_addr_mask` in its four bytes, and the events it has posted. -/
structure Decoding where
  msg : NlMsg
  ifIpipv4AddrMask : List Byte
  posted : List NlEvent

/-- At the start. -/
def Decoding.start : Decoding := ⟨.zero, [0, 0, 0, 0], []⟩

/-- `RTM_NEWLINK`, but for the bridge: the events. -/
def newlinkEvents (link : Ifinfomsg) : List NlEvent :=
  (if link.ifiChange &&& iffUp ≠ 0 then
    [if link.ifiFlags &&& iffUp ≠ 0 then .linkUp link.ifiIndex else .linkDown link.ifiIndex]
  else []) ++
  (if link.ifiFlags &&& iffRunning ≠ 0 ∧ link.ifiFlags &&& iffLowerUp ≠ 0 then
    [.usbLinkUp link.ifiIndex]
  else if link.ifiFlags &&& iffLowerUp = 0 then [.linkDown link.ifiIndex]
  else [])

/-- `RTM_NEWADDR`: the event. -/
def newaddrEvent (ifName : Nat → String) (addr : AddrInfo) : NlEvent :=
  let event := EventAddr.new (addr.prefixAddr.ssFamily ≠ afInet6) addr.metainfo.ifaIndex
  .addrAdd
    (if addr.prefixAddr.ssFamily = afInet6 then
      { event with
        ifaceName := some (ifName addr.metainfo.ifaIndex)
        ipv6Addr := some addr.prefixAddr.v6 }
    else
      { event with
        ifaceName := some (ifName addr.metainfo.ifaIndex)
        ipv4Addr := some addr.prefixAddr.v4 })

/-- A route that a user or a router advertisement gave, in the main table. -/
def RouteInfo.isDefault (route : RouteInfo) : Bool :=
  route.metainfo.rtmType = 1 ∧
    (route.metainfo.rtmProtocol = 3 ∨ route.metainfo.rtmProtocol = 9) ∧
      route.metainfo.rtmScope = 0 ∧ route.metainfo.rtmTable = 254

/-- A route of the kernel for IPv6, in the main table. -/
def RouteInfo.isV6Kernel (route : RouteInfo) : Bool :=
  route.metainfo.rtmFamily = afInet6 ∧ route.metainfo.rtmType = 1 ∧
    route.metainfo.rtmProtocol = 2 ∧ route.metainfo.rtmTable = 254

/-- There was an attribute of that kind. -/
def RouteInfo.has (route : RouteInfo) (param : Nat) : Bool := route.paramMask &&& param ≠ 0

/-- The event for a default route of IPv6: the destination is taken for the mask too. -/
def RouteInfo.defaultV6 (route : RouteInfo) : EventAddr :=
  { EventAddr.new false route.oifIndex with
    ipv6Addr := some route.dstAddr.v6
    ipv6AddrMask := route.dstAddr.v6.map some
    ipv6AddrGw := some route.gatewayAddr.v6 }

/-- The event for a destination of IPv6, with the mask of its length. -/
def RouteInfo.prefixV6 (route : RouteInfo) (other : Nat → Nat) : EventAddr :=
  { EventAddr.new false route.oifIndex with
    ipv6Addr := some route.dstAddr.v6
    ipv6AddrMask := maskWords other route.metainfo.rtmDstLen }

/-- `RTM_NEWROUTE`: the mask variable and the events. -/
def newrouteEvents (route : RouteInfo) (mask : List Byte) : List Byte × List NlEvent :=
  let (mask, events) :=
    if route.isDefault then
      if route.has rtaParamDst then
        (mask, [NlEvent.routeAdd { EventAddr.new true route.oifIndex with
          ipv4Addr := some route.dstAddr.v4
          ipv4AddrMask := some (ntohlBytes mask) }])
      else if route.metainfo.rtmFamily = afInet6 then
        (mask, [NlEvent.routeAdd route.defaultV6])
      else
        let mask := route.dstAddr.data.take 4
        (mask, [NlEvent.routeAdd { EventAddr.new true route.oifIndex with
          ipv4Addr := some route.dstAddr.v4
          ipv4AddrGw := some route.gatewayAddr.v4
          ipv4AddrMask := some (ntohlBytes mask) }])
    else (mask, [])
  (mask, events ++
    if route.isV6Kernel then
      (if route.has rtaParamDst then [.routeAdd (route.prefixV6 id)] else []) ++
      (if route.has rtaParamGateway then
        [.routeAdd { EventAddr.new false route.oifIndex with
          ipv6Addr := some route.dstAddr.v6
          ipv6AddrMask := route.dstAddr.v6.map some }]
      else [])
    else [])

/-- `RTM_DELROUTE`: the same. The rest of a mask goes to its first word here. -/
def delrouteEvents (route : RouteInfo) (mask : List Byte) : List Byte × List NlEvent :=
  let (mask, events) :=
    if route.isDefault then
      if route.has rtaParamDst then
        let mask : List Byte := [0xFF, 0xFF, 0xFF, 0xFF]
        (mask, [NlEvent.routeDel { EventAddr.new true route.oifIndex with
          ipv4Addr := some route.dstAddr.v4
          ipv4AddrMask := some (ntohlBytes mask) }])
      else if route.metainfo.rtmFamily = afInet6 then
        (mask, [NlEvent.routeDel route.defaultV6])
      else
        (mask, [NlEvent.routeDel { EventAddr.new true route.oifIndex with
          ipv4Addr := some route.dstAddr.v4
          ipv4AddrMask := some route.dstAddr.v4 }])
    else (mask, [])
  (mask, events ++
    if route.isV6Kernel ∧ route.has rtaParamDst then
      [.routeDel (route.prefixV6 fun _ => 0)]
    else [])

/-- The data of an event about a neighbour. -/
def NeighInfo.event (neigh : NeighInfo) (ifaceName : String) : EventAll where
  isV4 := neigh.localAddr.ssFamily = afInet
  ifIndex := neigh.metainfo.ndmIfindex
  ipv4Addr := if neigh.localAddr.ssFamily = afInet then neigh.localAddr.v4 else 0
  ipv6Addr := if neigh.localAddr.ssFamily = afInet6 then neigh.localAddr.v6 else [0, 0, 0, 0]
  macAddr := neigh.lladdrHwaddr.take 6
  ifaceName := ifaceName

/-- `RTM_NEWNEIGH`: the event. `NUD_PERMANENT` is 128. -/
def newneighEvent (ifName : Nat → String) (neigh : NeighInfo) : NlEvent :=
  let data := neigh.event (ifName neigh.metainfo.ndmIfindex)
  if neigh.metainfo.ndmFamily = afBridge ∧ neigh.metainfo.ndmState = 128 then
    .bridgeLinkUp data
  else .newNeigh data

/-- A message of a type, decoded from where the source says. The result says whether
the function goes on to the next message. -/
def decodeMsg (ifName : Nat → String) (mem : Memory) (src : Source) (nlmsgType : Nat)
    (d : Decoding) : Option (Decoding × Bool) :=
  if nlmsgType = rtmNewlink then
    let link := src.decodeRtmLink mem
    let msg := { d.msg with type := nlmsgType, linkEvent := true, nlLinkInfo := link }
    if link.ifiFamily = afBridge then some ({ d with msg := msg }, false)
    else some ({ d with msg := msg, posted := d.posted ++ newlinkEvents link }, true)
  else if nlmsgType = rtmDellink then
    let link := src.decodeRtmLink mem
    let msg := { d.msg with type := nlmsgType, linkEvent := true, nlLinkInfo := link }
    if link.ifiFamily = afBridge then some ({ d with msg := msg }, false)
    else some ({ d with msg := msg, posted := d.posted ++ [.linkDown link.ifiIndex] }, true)
  else if nlmsgType = rtmNewaddr then
    (src.decodeRtmAddr mem d.msg.nlAddrInfo).map fun addr =>
      ({ d with
        msg := { d.msg with nlAddrInfo := addr }
        posted := d.posted ++ [newaddrEvent ifName addr] }, true)
  else if nlmsgType = rtmNewroute then
    (src.decodeRtmRoute mem d.msg.nlRouteInfo).map fun route =>
      let (mask, events) := newrouteEvents route d.ifIpipv4AddrMask
      ({ msg := { d.msg with nlRouteInfo := route }
         ifIpipv4AddrMask := mask
         posted := d.posted ++ events }, true)
  else if nlmsgType = rtmDelroute then
    (src.decodeRtmRoute mem d.msg.nlRouteInfo).map fun route =>
      let (mask, events) := delrouteEvents route d.ifIpipv4AddrMask
      ({ msg := { d.msg with nlRouteInfo := route }
         ifIpipv4AddrMask := mask
         posted := d.posted ++ events }, true)
  else if nlmsgType = rtmNewneigh then
    (src.decodeRtmNeigh mem d.msg.nlNeighInfo).map fun neigh =>
      ({ d with
        msg := { d.msg with nlNeighInfo := neigh }
        posted := d.posted ++ [newneighEvent ifName neigh] }, true)
  else if nlmsgType = rtmDelneigh then
    (src.decodeRtmNeigh mem d.msg.nlNeighInfo).map fun neigh =>
      ({ d with
        msg := { d.msg with nlNeighInfo := neigh }
        posted := d.posted ++ [.delNeigh (neigh.event "")] }, true)
  else some (d, true)

/-! ## The loop -/

/-- `nlmsg_len` and `nlmsg_type`. -/
def nlmsgLen (mem : Memory) (nlh : Nat) : Nat := mem.u32 nlh

def nlmsgType (mem : Memory) (nlh : Nat) : Nat := mem.u16 (nlh + 4)

/-- `NLMSG_OK`. -/
def NlmsgOk (mem : Memory) (nlh len : Nat) : Prop :=
  nlmsghdrSize ≤ len ∧ nlmsghdrSize ≤ nlmsgLen mem nlh ∧ nlmsgLen mem nlh ≤ len

instance (mem : Memory) (nlh len : Nat) : Decidable (NlmsgOk mem nlh len) :=
  inferInstanceAs (Decidable (_ ∧ _))

/-- What the decoders get: the buffer, and of the length that is left they take off the
message header. -/
def bufferSource (buflen : Nat) : Source := ⟨0, fun _ => sub32 buflen nlmsghdrSize⟩

/-- The loop of `ipa_nl_decode_nlmsg`. There is no result if the fuel does not do. -/
def decodeLoop (ifName : Nat → String) (mem : Memory) :
    Nat → Nat → Nat → Decoding → Option Decoding
  | 0, _, _, _ => none
  | fuel + 1, nlh, buflen, d =>
    if NlmsgOk mem nlh buflen then
      (decodeMsg ifName mem (bufferSource buflen) (nlmsgType mem nlh) d).bind
        fun (d, goesOn) =>
          if goesOn then
            let size := align4 (nlmsgLen mem nlh)
            decodeLoop ifName mem fuel (nlh + size) (sub32 buflen size) d
          else some d
    else some d

/-- `ipa_nl_decode_nlmsg`: the events it posts. -/
def ipaNlDecodeNlmsg (ifName : Nat → String) (mem : Memory) (buflen : Nat) :
    Option (List NlEvent) :=
  (decodeLoop ifName mem (buflen + 1) 0 buflen .start).map (·.posted)

/-! ## Message by message -/

/-- A message read from its own header, with the attributes inside its own length. -/
def ownSource (mem : Memory) (nlh : Nat) : Source :=
  ⟨nlh, fun hdr => nlmsgLen mem nlh - nlmsghdrSize - hdr⟩

/-- The events of a message that is decoded alone. -/
def decodedAlone (ifName : Nat → String) (mem : Memory) (nlh : Nat) :
    Option (List NlEvent) :=
  (decodeMsg ifName mem (ownSource mem nlh) (nlmsgType mem nlh) .start).map (·.1.posted)

end Axon7.Netlink

import Axon7.Lib.Pool

/-!
# IPACM_LanToLan_Iface

The interfaces between which the LAN-to-LAN controller has frames forwarded in
hardware. For each pair of interfaces, each client of the one needs a filter
rule on the other, and each client needs routing rules for every layer 2
header type its frames may come in with. The rules live in the kernel; the
interfaces keep their handles.

Modelled as built with `FEATURE_IPA_V3` and without `FEATURE_L2TP`, the kernel
granting every request.
-/

namespace Axon7.LanToLan

open Axon7.Lib

inductive IpType
  | v4
  | v6
deriving DecidableEq

/-- `ipa_hdr_l2_type`. -/
inductive L2Type
  | none
  | ethernetII
  | ieee8023
  | max
deriving DecidableEq

abbrev Mac := BitVec 48

/-- An `IPACM_Lan *`. The controller keeps at most one interface for each, so
the pointer also stands for that interface. -/
abbrev IfaceId := Nat

/-- What the controller reads of an `IPACM_Lan`: whether it has properties,
the header type of its first transmit property, its category, and how many
transmit properties it has for each IP type, up to `MAX_NUM_PROP`. -/
structure Lan where
  txProp : Bool
  rxProp : Bool
  hdrL2Type : L2Type
  wlanIf : Bool
  guestAp : Bool
  rtRuleCount : IpType → Nat
  rtRuleCount_le : ∀ ip, rtRuleCount ip ≤ 2

/-- The routing tables by name: `eth_v4_X_to_Y`, `eth_v4_intra_interface` and
their likes for IPv6. -/
inductive RtTbl
  | inter (ip : IpType) (src dst : L2Type)
  | intra (ip : IpType)

/-! ## The kernel -/

/-- The handle spaces of the kernel. -/
inductive Kind
  | flt (ip : IpType)
  | rt (ip : IpType)
  | hdrProcCtx
deriving DecidableEq

/-- What the controller installs: a filter rule of an interface for a
destination, a routing rule of an interface for a destination (one for each
transmit property), a header processing context of an interface for frames
of a peer's header type. -/
inductive Rule
  | flt (iface : IfaceId) (ip : IpType) (mac : Mac) (rtTbl : RtTbl)
  | rt (iface : IfaceId) (ip : IpType) (mac : Mac) (rtTbl : RtTbl)
      (hdrProcCtx : Nat) (peerL2 : L2Type) (txProp : Nat)
  | hdrProcCtx (iface : IfaceId) (peerL2 : L2Type)

def Rule.kind : Rule → Kind
  | .flt _ ip _ _ => .flt ip
  | .rt _ ip _ _ _ _ _ => .rt ip
  | .hdrProcCtx _ _ => .hdrProcCtx

abbrev Kernel := Pool (Kind × Nat) Rule

/-- The interfaces there are, and the handle the kernel gives next. -/
structure Env where
  lan : IfaceId → Lan
  alloc : Kernel → Kind → Nat

namespace Env

variable (e : Env)

def l2 (a : IfaceId) : L2Type := (e.lan a).hdrL2Type

def addRule (r : Rule) (k : Kernel) : Nat × Kernel :=
  let hdl := e.alloc k r.kind
  (hdl, k.add (r.kind, hdl) r)

/-! ## IPACM_Lan -/

def ethBridgeAddHdrProcCtx (a : IfaceId) (peerL2 : L2Type) (k : Kernel) :
    Nat × Kernel :=
  e.addRule (.hdrProcCtx a peerL2) k

/-- One routing rule for each transmit property of the IP type. -/
def ethBridgeAddRtRule (a : IfaceId) (mac : Mac) (rtTbl : RtTbl)
    (hdrProcCtx : Nat) (peerL2 : L2Type) (ip : IpType) (k : Kernel) :
    List Nat × Kernel :=
  mapThread (fun i => e.addRule (.rt a ip mac rtTbl hdrProcCtx peerL2 i))
    (List.range ((e.lan a).rtRuleCount ip)) k

def ethBridgeAddFltRule (a : IfaceId) (mac : Mac) (rtTbl : RtTbl)
    (ip : IpType) (k : Kernel) : Nat × Kernel :=
  e.addRule (.flt a ip mac rtTbl) k

end Env

def ethBridgeDelHdrProcCtx (hdl : Nat) (k : Kernel) : Kernel :=
  k.del (.hdrProcCtx, hdl)

/-- The handle 0 is ignored. -/
def ethBridgeDelRtRule (ip : IpType) (hdl : Nat) (k : Kernel) : Kernel :=
  if hdl = 0 then k else k.del (.rt ip, hdl)

/-- The handle 0 is ignored. -/
def ethBridgeDelFltRule (hdl : Nat) (ip : IpType) (k : Kernel) : Kernel :=
  if hdl = 0 then k else k.del (.flt ip, hdl)

/-! ## Interfaces -/

/-- A pointer to a `client_info` and the address that never changes there. -/
structure ClientPtr where
  addr : Nat
  macAddr : Mac
deriving DecidableEq

/-- `client_info`. -/
structure ClientInfo where
  ptr : ClientPtr
  interIfaceRtRuleHdl : L2Type → IpType → List Nat
  intraIfaceRtRuleHdl : IpType → List Nat

/-- `flt_rule_info`. -/
structure FltRuleInfo where
  pClient : ClientPtr
  fltRuleHdl : IpType → Nat

/-- `peer_iface_info`. -/
structure PeerIfaceInfo where
  peer : IfaceId
  rtTblNameForRt : IpType → RtTbl
  rtTblNameForFlt : IpType → RtTbl
  fltRule : List FltRuleInfo

/-- `IPACM_LanToLan_Iface`. -/
structure Iface where
  isIpAddrAssigned : IpType → Bool
  supportInterIfaceOffload : Bool
  supportIntraIfaceOffload : Bool
  refCntPeerL2HdrType : L2Type → Int
  hdrProcCtxForInterInterface : L2Type → Nat
  hdrProcCtxForIntraInterface : Nat
  clientInfo : List ClientInfo
  peerIfaceInfo : List PeerIfaceInfo
  intraInterfaceInfo : PeerIfaceInfo

section Methods

variable (e : Env) (a : IfaceId)

/-- The constructor. The intra-interface information is left for
`handle_intra_interface_info`. -/
def newIface : Iface where
  isIpAddrAssigned _ := false
  supportInterIfaceOffload :=
    !((e.lan a).wlanIf && (e.lan a).guestAp)
  supportIntraIfaceOffload := (e.lan a).wlanIf
  refCntPeerL2HdrType _ := 0
  hdrProcCtxForInterInterface _ := 0
  hdrProcCtxForIntraInterface := 0
  clientInfo := []
  peerIfaceInfo := []
  intraInterfaceInfo :=
    { peer := a, rtTblNameForRt := .intra, rtTblNameForFlt := .intra,
      fltRule := [] }

/-- `add_client_rt_rule` of the interface `a`, whose contexts are given. -/
def addClientRtRule (i : Iface) (peer : PeerIfaceInfo) (client : ClientInfo)
    (k : Kernel) : ClientInfo × Kernel :=
  let peerL2 := e.l2 peer.peer
  let mac := client.ptr.macAddr
  if peer.peer ≠ a then
    let ctx := i.hdrProcCtxForInterInterface peerL2
    let (v4, k) := e.ethBridgeAddRtRule a mac (peer.rtTblNameForRt .v4) ctx
      peerL2 .v4 k
    let (v6, k) := e.ethBridgeAddRtRule a mac (peer.rtTblNameForRt .v6) ctx
      peerL2 .v6 k
    ({ client with
      interIfaceRtRuleHdl := Function.update client.interIfaceRtRuleHdl peerL2
        fun | .v4 => v4 | .v6 => v6 }, k)
  else
    let ctx := i.hdrProcCtxForIntraInterface
    let (v4, k) := e.ethBridgeAddRtRule a mac (peer.rtTblNameForRt .v4) ctx
      peerL2 .v4 k
    let (v6, k) := e.ethBridgeAddRtRule a mac (peer.rtTblNameForRt .v6) ctx
      peerL2 .v6 k
    ({ client with intraIfaceRtRuleHdl := fun | .v4 => v4 | .v6 => v6 }, k)

/-- The routing rules of both IP types deleted. -/
def delRtRules (hdls : IpType → List Nat) (k : Kernel) : Kernel :=
  let k := (hdls .v4).foldl (fun k h => ethBridgeDelRtRule .v4 h k) k
  (hdls .v6).foldl (fun k h => ethBridgeDelRtRule .v6 h k) k

/-- `del_client_rt_rule`. -/
def delClientRtRule (peer : PeerIfaceInfo) (client : ClientInfo) (k : Kernel) :
    ClientInfo × Kernel :=
  let peerL2 := e.l2 peer.peer
  if peer.peer ≠ a then
    ({ client with
      interIfaceRtRuleHdl :=
        Function.update client.interIfaceRtRuleHdl peerL2 fun _ => [] },
      delRtRules (client.interIfaceRtRuleHdl peerL2) k)
  else
    ({ client with intraIfaceRtRuleHdl := fun _ => [] },
      delRtRules client.intraIfaceRtRuleHdl k)

/-- A handle put into the first entry of the client, or into a new entry. -/
def setFltRuleHdl (client : ClientPtr) (ip : IpType) (hdl : Nat) :
    List FltRuleInfo → Option (List FltRuleInfo)
  | [] => none
  | flt :: flts =>
    if flt.pClient = client then
      some ({ flt with
        fltRuleHdl := Function.update flt.fltRuleHdl ip hdl } :: flts)
    else (setFltRuleHdl client ip hdl flts).map (flt :: ·)

/-- `add_client_flt_rule`. -/
def addClientFltRule (client : ClientPtr) (ip : IpType) (peer : PeerIfaceInfo)
    (k : Kernel) : PeerIfaceInfo × Kernel :=
  let (hdl, k) :=
    e.ethBridgeAddFltRule a client.macAddr (peer.rtTblNameForFlt ip) ip k
  match setFltRuleHdl client ip hdl peer.fltRule with
  | some flts => ({ peer with fltRule := flts }, k)
  | none =>
    let flt : FltRuleInfo :=
      { pClient := client, fltRuleHdl := Function.update (fun _ => 0) ip hdl }
    ({ peer with fltRule := flt :: peer.fltRule }, k)

/-- The filter rules of an entry deleted, for the IP types assigned. -/
def delFltRules (assigned : IpType → Bool) (flt : FltRuleInfo) (k : Kernel) :
    Kernel :=
  let k := if assigned .v4 then ethBridgeDelFltRule (flt.fltRuleHdl .v4) .v4 k
    else k
  if assigned .v6 then ethBridgeDelFltRule (flt.fltRuleHdl .v6) .v6 k else k

/-- `del_client_flt_rule`: the first entry of the client goes. -/
def delClientFltRule (assigned : IpType → Bool) (client : ClientPtr)
    (peer : PeerIfaceInfo) (k : Kernel) : PeerIfaceInfo × Kernel :=
  match peer.fltRule.find? fun flt => flt.pClient = client with
  | none => (peer, k)
  | some flt =>
    ({ peer with fltRule := peer.fltRule.eraseP (·.pClient = client) },
      delFltRules assigned flt k)

/-- `clear_all_flt_rule_for_one_peer_iface`. -/
def clearAllFltRule (assigned : IpType → Bool) (peer : PeerIfaceInfo)
    (k : Kernel) : PeerIfaceInfo × Kernel :=
  ({ peer with fltRule := [] },
    peer.fltRule.foldl (fun k flt => delFltRules assigned flt k) k)

/-- `clear_all_rt_rule_for_one_peer_iface`. -/
def clearAllRtRule (peer : PeerIfaceInfo) (i : Iface) (k : Kernel) :
    Iface × Kernel :=
  if i.refCntPeerL2HdrType (e.l2 peer.peer) = 0 then
    let (clients, k) := mapThread (delClientRtRule e a peer) i.clientInfo k
    ({ i with clientInfo := clients }, k)
  else (i, k)

/-- Applied to the first peer information of the peer. -/
def onPeer (peer : IfaceId)
    (f : PeerIfaceInfo → Kernel → PeerIfaceInfo × Kernel) :
    List PeerIfaceInfo → Kernel → List PeerIfaceInfo × Kernel
  | [], k => ([], k)
  | pe :: pes, k =>
    if pe.peer = peer then
      let (pe, k) := f pe k
      (pe :: pes, k)
    else
      let (pes, k) := onPeer peer f pes k
      (pe :: pes, k)

/-- A filter rule for each IP type assigned. -/
def addAssignedFltRule (assigned : IpType → Bool) (client : ClientPtr)
    (peer : PeerIfaceInfo) (k : Kernel) : PeerIfaceInfo × Kernel :=
  let (peer, k) := if assigned .v4 then addClientFltRule e a client .v4 peer k
    else (peer, k)
  if assigned .v6 then addClientFltRule e a client .v6 peer k else (peer, k)

/-- `add_one_client_flt_rule`. -/
def addOneClientFltRule (peerIface : IfaceId) (client : ClientPtr) (i : Iface)
    (k : Kernel) : Iface × Kernel :=
  let (peers, k) := onPeer peerIface
    (addAssignedFltRule e a i.isIpAddrAssigned client) i.peerIfaceInfo k
  ({ i with peerIfaceInfo := peers }, k)

/-- `del_one_client_flt_rule`. -/
def delOneClientFltRule (peerIface : IfaceId) (client : ClientPtr) (i : Iface)
    (k : Kernel) : Iface × Kernel :=
  let (peers, k) := onPeer peerIface
    (delClientFltRule i.isIpAddrAssigned client) i.peerIfaceInfo k
  ({ i with peerIfaceInfo := peers }, k)

/-- Filter rules of one IP type for a list of clients. -/
def addClientFltRules (ip : IpType) : List ClientInfo → PeerIfaceInfo →
    Kernel → PeerIfaceInfo × Kernel
  | [], peer, k => (peer, k)
  | client :: clients, peer, k =>
    let (peer, k) := addClientFltRule e a client.ptr ip peer k
    addClientFltRules ip clients peer k

/-- `add_all_inter_interface_client_flt_rule`, with the client list of every
peer. -/
def addAllInterInterfaceClientFltRule (ip : IpType)
    (clients : IfaceId → List ClientInfo) (i : Iface) (k : Kernel) :
    Iface × Kernel :=
  let (peers, k) := mapThread
    (fun pe => addClientFltRules e a ip (clients pe.peer) pe) i.peerIfaceInfo k
  ({ i with peerIfaceInfo := peers }, k)

/-- `add_all_intra_interface_client_flt_rule`. -/
def addAllIntraInterfaceClientFltRule (ip : IpType) (i : Iface) (k : Kernel) :
    Iface × Kernel :=
  let (peer, k) := addClientFltRules e a ip i.clientInfo i.intraInterfaceInfo k
  ({ i with intraInterfaceInfo := peer }, k)

/-- `add_hdr_proc_ctx`. -/
def addHdrProcCtx (peerL2 : L2Type) (i : Iface) (k : Kernel) :
    Iface × Kernel :=
  if i.refCntPeerL2HdrType peerL2 = 1 then
    let (hdl, k) := e.ethBridgeAddHdrProcCtx a peerL2 k
    ({ i with hdrProcCtxForInterInterface :=
        Function.update i.hdrProcCtxForInterInterface peerL2 hdl }, k)
  else (i, k)

/-- `del_hdr_proc_ctx`. The handle stays behind. -/
def delHdrProcCtx (peerL2 : L2Type) (i : Iface) (k : Kernel) : Kernel :=
  if i.refCntPeerL2HdrType peerL2 = 0 then
    ethBridgeDelHdrProcCtx (i.hdrProcCtxForInterInterface peerL2) k
  else k

def Iface.addRefCnt (i : Iface) (peerL2 : L2Type) (n : Int) : Iface :=
  { i with
    refCntPeerL2HdrType := Function.update i.refCntPeerL2HdrType peerL2
      (i.refCntPeerL2HdrType peerL2 + n) }

/-- `IPACM_LanToLan_Iface::handle_new_iface_up`, with the tables that
`IPACM_LanToLan::handle_new_iface_up` names for the pair. -/
def handleNewIfaceUp (peer : IfaceId) (i : Iface) (k : Kernel) :
    Iface × Kernel :=
  let peerL2 := e.l2 peer
  let (i, k) := addHdrProcCtx e a peerL2 (i.addRefCnt peerL2 1) k
  let newPeer : PeerIfaceInfo :=
    { peer := peer
      rtTblNameForRt := fun ip => .inter ip peerL2 (e.l2 a)
      rtTblNameForFlt := fun ip => .inter ip (e.l2 a) peerL2
      fltRule := [] }
  ({ i with peerIfaceInfo := newPeer :: i.peerIfaceInfo }, k)

/-- `add_client_rt_rule_for_new_iface`: the new interface is the peer in
front. -/
def addClientRtRuleForNewIface (i : Iface) (k : Kernel) : Iface × Kernel :=
  match i.peerIfaceInfo with
  | [] => (i, k)
  | peer :: _ =>
    if i.refCntPeerL2HdrType (e.l2 peer.peer) = 1 then
      let (clients, k) := mapThread (addClientRtRule e a i peer) i.clientInfo k
      ({ i with clientInfo := clients }, k)
    else (i, k)

/-- `handle_intra_interface_info`. -/
def handleIntraInterfaceInfo (i : Iface) (k : Kernel) : Iface × Kernel :=
  let (hdl, k) := e.ethBridgeAddHdrProcCtx a (e.l2 a) k
  ({ i with
    intraInterfaceInfo :=
      { peer := a, rtTblNameForRt := .intra, rtTblNameForFlt := .intra,
        fltRule := i.intraInterfaceInfo.fltRule }
    hdrProcCtxForIntraInterface := hdl }, k)

end Methods

end Axon7.LanToLan

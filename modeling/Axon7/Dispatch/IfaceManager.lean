import Axon7.Dispatch.Dispatcher
import Axon7.Wan.Iface

/-!
# Instances that remove themselves

`IPACM_IfaceManager` makes an instance for an interface and registers it for the events of its
kind. An instance whose interface goes down, or whose interface is to be another kind, deletes
itself in its callback, and its destructor takes its cells out of the list `ProcessEvt` is
going over.

What decides where the environment has a say is left to it: the configuration at each step, the
addresses `malloc` gives, and where it gives none. The build is for Android with the offload
HAL, and bridges no LANs.
-/

namespace Axon7.Dispatch

open Lib
open Wan (WanType)

/-- `ipacm_iface_type`. -/
inductive IfaceType
  | lanIf
  | wlanIf
  | wanIf
  | virtualIf
  | ethIf
  | embmsIf
  | oduIf
  | unknownIf
  deriving DecidableEq

/-- The class of an instance, and of an `IPACM_Wan` its `m_is_sta_mode`. -/
inductive IfaceClass
  | lan
  | wlan
  | wan (isStaMode : WanType)
  deriving DecidableEq

/-- An instance, as far as it matters when it deletes itself. -/
structure Iface where
  cls : IfaceClass
  ipaIfNum : Nat
  ipaIfCate : IfaceType

/-- Who may be registered: the objects made at the start, and the instances. -/
inductive Listener
  | neigh
  | ifacemgr
  | ctList
  | iface (obj : Nat)
  deriving DecidableEq

/-- What a step finds: the `if_cat` of the interfaces, `ipacm_odu_enable` and
`ipacm_odu_router_mode`, `IPACM_Wlan::num_wlan_ap_iface`, and the instances whose callback is
given no memory for the event it posts. -/
structure Env where
  ifCat : Nat → IfaceType
  oduEnable : Bool
  oduRouterMode : Bool
  numWlanApIface : Int
  noMemory : Nat → Bool

/-- `malloc`: an address not in use, or none. -/
structure Malloc (α : Type) where
  alloc : Heap α → Option Nat
  fresh : ∀ heap a, alloc heap = some a → heap.lookup a = none

/-! ## What instances register for -/

/-- `case LAN_IF`. -/
def lanEvents : List IpaCmEventId :=
  [.addrAdd, .neighClientIpAddrAdd, .neighClientIpAddrDel, .swRoutingEnable, .swRoutingDisable,
    .handleWanUpTether, .handleWanUpV6Tether, .handleWanDownTether, .handleWanDownV6Tether,
    .downstreamAdd, .downstreamDel, .cfgChange, .privateSubnetChange, .tetheringStatsUpdate,
    .cradleWanModeSwitch, .linkDown, .lanDeleteSelf]

/-- `case ETH_IF`. -/
def ethEvents : List IpaCmEventId :=
  [.addrAdd, .neighClientIpAddrAdd, .swRoutingEnable, .swRoutingDisable, .handleWanUp,
    .handleWanUpV6, .handleWanDown, .handleWanDownV6, .cradleWanModeSwitch, .linkDown,
    .lanDeleteSelf]

/-- `case ODU_IF`, in router mode. -/
def oduRouterEvents : List IpaCmEventId :=
  [.addrAdd, .neighClientIpAddrAdd, .neighClientIpAddrDel, .swRoutingEnable, .swRoutingDisable,
    .handleWanUp, .handleWanUpV6, .handleWanDown, .handleWanDownV6, .cradleWanModeSwitch,
    .linkDown, .lanDeleteSelf]

/-- `case ODU_IF`, in bridge mode. -/
def oduBridgeEvents : List IpaCmEventId :=
  [.addrAdd, .neighClientIpAddrAdd, .swRoutingEnable, .swRoutingDisable, .linkDown,
    .lanDeleteSelf]

/-- `case WLAN_IF`. -/
def wlanEvents : List IpaCmEventId :=
  [.addrAdd, .routeDel, .wlanClientAdd, .wlanClientAddEx, .wlanClientDel,
    .wlanClientPowerSave, .wlanClientRecover, .neighClientIpAddrAdd, .swRoutingEnable,
    .swRoutingDisable, .handleWanUpTether, .handleWanUpV6Tether, .handleWanDownTether,
    .handleWanDownV6Tether, .downstreamAdd, .downstreamDel, .ssrNotice, .privateSubnetChange,
    .cradleWanModeSwitch, .wlanLinkDown, .tetheringStatsUpdate, .lanDeleteSelf]

/-- `case WAN_IF`. -/
def wanEvents (isStaMode : WanType) : List IpaCmEventId :=
  [.addrAdd, .wanUpstreamRouteAdd, .wanUpstreamRouteDel] ++
    (if isStaMode = .q6Wan then [.networkStatsUpdate] else []) ++
    [.firewallChange, .neighClientIpAddrAdd, .swRoutingEnable, .swRoutingDisable, .cfgChange,
      .wanXlatConnect] ++
    if isStaMode = .wlanWan then [.wlanLinkDown] else [.linkDown]

/-- `case EMBMS_IF`. -/
def embmsEvents : List IpaCmEventId := [.linkDown]

/-- What `IPACM_Neighbor` registers for. -/
def neighEvents : List IpaCmEventId := [.wlanClientAddEx, .newNeigh, .delNeigh]

/-- What `IPACM_IfaceManager` registers for. -/
def ifacemgrEvents : List IpaCmEventId :=
  [.cfgChange, .linkUp, .wlanApLinkUp, .wlanStaLinkUp, .usbLinkUp, .wanEmbmsLinkUp]

/-- What `IPACM_ConntrackListener` registers for. -/
def ctListEvents : List IpaCmEventId :=
  [.handleWanUp, .handleWanDown, .processCtMessage, .processCtMessageV6, .handleWlanUp,
    .handleLanUp, .neighClientIpAddrAdd, .neighClientIpAddrDel]

/-- `registr` for each of the events. -/
def EvtDispatcher.registrAll (malloc : IpaCmEventId → Malloc (CmdEvts Listener))
    (obj : Listener) :
    EvtDispatcher Listener → List IpaCmEventId → Except Fault (EvtDispatcher Listener)
  | s, [] => .ok s
  | s, event :: events => do
    let (s, _) ← s.registr ((malloc event).alloc s.heap) event obj
    registrAll malloc obj s events

/-- The dispatcher, the instances there are, and the list of `IPACM_IfaceManager`. -/
structure World where
  dispatcher : EvtDispatcher Listener := {}
  objs : Nat → Option Iface := fun _ => none
  ifaces : List (Nat × Nat) := []

namespace World

/-- The constructors `main` runs. -/
def start (malloc : Listener → IpaCmEventId → Malloc (CmdEvts Listener)) :
    Except Fault World := do
  let d ← EvtDispatcher.registrAll (malloc .neigh) .neigh {} neighEvents
  let d ← d.registrAll (malloc .ifacemgr) .ifacemgr ifacemgrEvents
  let d ← d.registrAll (malloc .ctList) .ctList ctListEvents
  .ok { dispatcher := d }

/-- `delete` of an instance. That of an `IPACM_Wlan` runs the destructor of `IPACM_Lan` too. -/
def delete (s : World) (obj : Nat) (cls : IfaceClass) : Except Fault World := do
  let d ← s.dispatcher.deregistr (.iface obj)
  let d ← if cls = .wlan then d.deregistr (.iface obj) else .ok d
  .ok {
    dispatcher := d
    objs := Function.update s.objs obj none
    ifaces := s.ifaces.filter (·.2 ≠ obj) }

end World

/-- Whether the callback of an instance ends with `delete this`. The event carries an index of
an interface, which is none for an interface IPA does not know. -/
def Iface.deletesSelf (i : Iface) (env : Env) (obj : Nat) (event : IpaCmEventId)
    (index : Option Nat) : Bool :=
  match i.cls, event with
  | .lan, .lanDeleteSelf => index = some i.ipaIfNum && !env.noMemory obj
  | .wlan, .lanDeleteSelf => index = some i.ipaIfNum
  | .wan .wlanWan, .wlanLinkDown => index = some i.ipaIfNum
  | .wan .ecmWan, .cfgChange => env.ifCat i.ipaIfNum ≠ i.ipaIfCate && !env.noMemory obj
  | .wan .q6Wan, .linkDown => index = some i.ipaIfNum
  | .wan .ecmWan, .linkDown => index = some i.ipaIfNum
  | _, _ => false

namespace World

/-- Whether the callback of a listener deletes it. -/
def deletesSelf (s : World) (env : Env) (event : IpaCmEventId) (index : Option Nat) :
    Listener → Bool
  | .iface obj => (s.objs obj).any (·.deletesSelf env obj event index)
  | _ => false

/-- `event_callback`, as far as it changes the list. -/
def eventCallback (s : World) (env : Env) (event : IpaCmEventId) (index : Option Nat) :
    Listener → Except Fault World
  | .iface obj =>
    match s.objs obj with
    | none => .error .freed
    | some i => if i.deletesSelf env obj event index then s.delete obj i.cls else .ok s
  | _ => .ok s

/-- The loop of `ProcessEvt`, and who is told. A cell is copied before its listener is told,
and the next one is taken from the copy. -/
def processLoop (env : Env) (event : IpaCmEventId) (index : Option Nat) :
    Nat → World → Option Nat → Except Fault (World × List Listener)
  | _, s, none => .ok (s, [])
  | 0, _, some _ => .error .endless
  | fuel + 1, s, some tmp => do
    let tmp1 ← s.dispatcher.heap.read tmp
    if event = tmp1.val.event then
      let s ← s.eventCallback env event index tmp1.val.obj
      let (s, told) ← processLoop env event index fuel s tmp1.next
      .ok (s, tmp1.val.obj :: told)
    else processLoop env event index fuel s tmp1.next

end World

end Axon7.Dispatch

/-!
# The order of the registrations

Instances register for all their events at once, so the cells of a listener stand together in
the list, in the order of the source. A listener that deletes itself when told of an event is
safe to be told if it has no cell behind that one: then the next cell is another's, and stays.
-/

namespace Axon7.Dispatch

open Lib
open Wan (WanType)

section

variable {L : Type}

/-- What a listener is registered for, in order. -/
def eventsOf [DecidableEq L] (l : List (CmdEvts L)) (obj : L) : List IpaCmEventId :=
  (l.filter (·.obj = obj)).map (·.event)

/-- The cells of a listener stand together: one who has a cell further on has the next one. -/
def Together : List (CmdEvts L) → Prop
  | [] => True
  | x :: rest => (∀ z ∈ rest, z.obj = x.obj → ∃ y, rest.head? = some y ∧ y.obj = x.obj) ∧
      Together rest

/-- Who is deleted when told of the event has no cell behind the one for it. -/
def LastOfIts (deletes : L → Bool) (event : IpaCmEventId) : List (CmdEvts L) → Prop
  | [] => True
  | x :: rest => (x.event = event → deletes x.obj → ∀ y ∈ rest, y.obj ≠ x.obj) ∧
      LastOfIts deletes event rest

variable {l : List (CmdEvts L)} {x : CmdEvts L} {obj : L} {event : IpaCmEventId}
  {deletes : L → Bool}

theorem Together.append (h : Together l) (hobj : ∀ x ∈ l, x.obj ≠ obj)
    (events : List IpaCmEventId) : Together (l ++ events.map (CmdEvts.mk · obj)) := by
  induction l with
  | nil =>
    induction events with
    | nil => exact trivial
    | cons event events ih =>
      refine ⟨fun z hz _ => ?_, ih⟩
      cases events with
      | nil => exact absurd hz (by simp)
      | cons event' events => exact ⟨_, rfl, rfl⟩
  | cons x rest ih =>
    obtain ⟨hx, hrest⟩ := List.forall_mem_cons.1 hobj
    refine ⟨fun z hz hzobj => ?_, ih h.2 hrest⟩
    rcases List.mem_append.1 hz with hz | hz
    · obtain ⟨y, hy, hyobj⟩ := h.1 z hz hzobj
      refine ⟨y, ?_, hyobj⟩
      change (rest ++ _).head? = _
      rw [List.head?_append, hy]
      rfl
    · obtain ⟨event, -, rfl⟩ := List.mem_map.1 hz
      exact absurd hzobj.symm hx

variable [DecidableEq L]

theorem Together.filter (h : Together l) (obj : L) : Together (l.filter (·.obj ≠ obj)) := by
  induction l with
  | nil => exact trivial
  | cons x rest ih =>
    by_cases hx : x.obj = obj
    · rw [List.filter_cons_of_neg (by simpa using hx)]
      exact ih h.2
    · rw [List.filter_cons_of_pos (by simpa using hx)]
      refine ⟨fun z hz hzobj => ?_, ih h.2⟩
      obtain ⟨y, hy, hyobj⟩ := h.1 z (List.mem_of_mem_filter hz) hzobj
      cases rest with
      | nil => exact absurd hy (by simp)
      | cons y' rest =>
        obtain rfl : y' = y := Option.some_inj.1 hy
        refine ⟨y', ?_, hyobj⟩
        rw [List.filter_cons_of_pos (by rw [hyobj]; simpa using hx)]
        rfl

end

/-! ## The orders of the source -/

/-- What instances of a class are registered for. -/
def IfaceClass.orders : IfaceClass → List (List IpaCmEventId)
  | .lan => [lanEvents, ethEvents, oduRouterEvents, oduBridgeEvents]
  | .wlan => [wlanEvents]
  | .wan isStaMode => [wanEvents isStaMode, embmsEvents]

end Axon7.Dispatch

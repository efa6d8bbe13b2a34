import Axon7.Wan.Frame

/-!
# The header of a station

A station takes the headers of the client that is its gateway, `hdr_hdl_sta_v4` and
`hdr_hdl_sta_v6`, and the default WAN routing rules have them. The handlers of an
instance are followed here for these members too; all else is as before.
-/

namespace Axon7.Wan

open Axon7.Tether (IpType IfaceIpType Addr)
open Axon7.Clients (Mac)

/-- An instance in station mode, with the headers, and with the one that the default WAN
routing rules of a family have while they are installed. -/
structure Station where
  iface : Iface
  statics : Statics
  hdrHdlSta : IpType → Nat
  wanRouteHdr : IpType → Option Nat

namespace Station

variable (alloc : Alloc)

/-- The header of a client becomes that of the station. -/
def setHeader (n : Nat) (ip : IpType) (s : Station) : Station :=
  { s with
    iface := { s.iface with headerSet := Function.update s.iface.headerSet ip true }
    hdrHdlSta := Function.update s.hdrHdlSta ip (s.iface.hdl (.clientHdr n ip)) }

/-- The headers of a client become those of the station, the one of the gateway's
family first. There is no result if one is missing. -/
def takeHeaders (n : Nat) (ip : IpType) (s : Station) : Station × Bool :=
  let c := s.iface.clients n
  if c.headerSet ip then
    let s := s.setHeader n ip
    if c.headerSet (otherFamily ip) then (s.setHeader n (otherFamily ip), true)
    else (s, false)
  else (s, false)

/-- The gateway of the family, if it is known, is one of the clients. The flag
says whether to go on. -/
def findGateway (ip : IpType) (s : Station) : Station × Bool :=
  match ip with
  | .v4 =>
    match s.iface.wanV4AddrGw with
    | none => (s, true)
    | some addr =>
      match s.iface.wanClientIndexIpv4 addr with
      | none => (s, false)
      | some n => s.takeHeaders n .v4
  | .v6 =>
    match s.iface.wanV6AddrGw with
    | none => (s, true)
    | some addr =>
      match s.iface.wanClientIndexIpv6 addr with
      | none => (s, false)
      | some n => s.takeHeaders n .v6

/-- `handle_route_add_evt`: with a header, the rules are added for the transmit
properties of the family. -/
def handleRouteAddEvt (ip : IpType) (fw : FirewallConf) (s : Station) : Station :=
  let (i, g) := s.iface.handleRouteAddEvt alloc ip fw s.statics
  { s with
    iface := i
    statics := g
    wanRouteHdr :=
      if s.iface.headerSet ip ∧ ip ∈ s.iface.conf.tx then
        Function.update s.wanRouteHdr ip (some (s.hdrHdlSta ip))
      else s.wanRouteHdr }

/-- `handle_sta_header_add_evt`. -/
def handleStaHeaderAddEvt (fw : FirewallConf) (s : Station) : Station :=
  if s.iface.headerSet .v4 || s.iface.headerSet .v6 then s
  else
    match s.findGateway .v4 with
    | (s, false) => s
    | (s, true) =>
      match s.findGateway .v6 with
      | (s, false) => s
      | (s, true) =>
        let s :=
          if s.iface.headerPartialDefaultWan .v4 then s.handleRouteAddEvt alloc .v4 fw
          else s
        if s.iface.headerPartialDefaultWan .v6 then s.handleRouteAddEvt alloc .v6 fw
        else s

/-- `IPA_WAN_UPSTREAM_ROUTE_ADD_EVENT` for this interface. -/
def handleUpstreamRouteAdd (u : Upstream) (fw : FirewallConf) (s : Station) : Station :=
  let ip := u.ipType
  if s.iface.ipType.has ip = false then s
  else if ip = .v6 ∧ s.iface.ipv6Prefix = 0 then s
  else
    let s :=
      if s.iface.active ip then s
      else
        let s :=
          if Iface.hasGateway u then
            handleStaHeaderAddEvt alloc fw { s with iface := s.iface.setGateway u }
          else s
        if s.iface.active ip then s else s.handleRouteAddEvt alloc ip fw
    { s with statics := s.iface.postWanUpTetherEvt ip s.statics }

/-- `IPA_WAN_UPSTREAM_ROUTE_DEL_EVENT` for this interface: the rules go with the route. -/
def handleUpstreamRouteDel (ip : IpType) (s : Station) : Station :=
  let (i, g) := s.iface.handleUpstreamRouteDel ip s.statics
  { s with
    iface := i
    statics := g
    wanRouteHdr :=
      if s.iface.active ip then Function.update s.wanRouteHdr ip none else s.wanRouteHdr }

/-- The header of a neighbour is constructed and its address is stored, if that does not
fail. -/
def storeNeigh (mac : Mac) (a : Addr) (s : Station) : Station × Bool :=
  if s.iface.conf.staMode = .wlanWan ∧ s.iface.isOwnAddr a = true then (s, false)
  else if mac = 0 then (s, false)
  else
    let (i, g) := s.iface.handleWanHdrInit alloc mac s.statics
    match i.handleWanClientIpaddr mac a g with
    | none => ({ s with iface := i, statics := g }, false)
    | some (i, g) =>
      let (i, g) := i.handleWanClientRouteRule alloc mac a.ipType g
      ({ s with iface := i, statics := g }, true)

/-- `IPA_NEIGH_CLIENT_IP_ADDR_ADD_EVENT`. -/
def handleNeighClientIpAddrAdd (mac : Mac) (a : Addr) (fw : FirewallConf) (s : Station) :
    Station :=
  match s.storeNeigh alloc mac a with
  | (s, true) => s.handleStaHeaderAddEvt alloc fw
  | (s, false) => s

/-! ## The instance in it -/

/-- The instance, and what the instances share. -/
def pair (s : Station) : Iface × Statics := (s.iface, s.statics)

variable (s : Station) (fw : FirewallConf)

theorem takeHeaders_iface (n : Nat) (ip : IpType) :
    (s.takeHeaders n ip).1.pair = ((s.iface.takeHeaders n ip).1, s.statics) ∧
      (s.takeHeaders n ip).2 = (s.iface.takeHeaders n ip).2 := by
  rw [takeHeaders, Iface.takeHeaders]
  dsimp only
  split
  · split <;> exact ⟨rfl, rfl⟩
  · exact ⟨rfl, rfl⟩

theorem findGateway_iface (ip : IpType) :
    (s.findGateway ip).1.pair = ((s.iface.findGateway ip).1, s.statics) ∧
      (s.findGateway ip).2 = (s.iface.findGateway ip).2 := by
  cases ip with
  | v4 =>
    rw [findGateway, Iface.findGateway]
    cases s.iface.wanV4AddrGw with
    | none => exact ⟨rfl, rfl⟩
    | some addr =>
      dsimp only
      cases s.iface.wanClientIndexIpv4 addr with
      | none => exact ⟨rfl, rfl⟩
      | some n => exact s.takeHeaders_iface n .v4
  | v6 =>
    rw [findGateway, Iface.findGateway]
    cases s.iface.wanV6AddrGw with
    | none => exact ⟨rfl, rfl⟩
    | some addr =>
      dsimp only
      cases s.iface.wanClientIndexIpv6 addr with
      | none => exact ⟨rfl, rfl⟩
      | some n => exact s.takeHeaders_iface n .v6

theorem handleStaHeaderAddEvt_pair :
    (s.handleStaHeaderAddEvt alloc fw).pair =
      s.iface.handleStaHeaderAddEvt alloc fw s.statics := by
  have hwaiting : ∀ (s : Station) (ip : IpType),
      (if s.iface.headerPartialDefaultWan ip then s.handleRouteAddEvt alloc ip fw
        else s).pair =
      if s.iface.headerPartialDefaultWan ip then
        s.iface.handleRouteAddEvt alloc ip fw s.statics else (s.iface, s.statics) := by
    intro s ip
    split <;> rfl
  rw [handleStaHeaderAddEvt, Iface.handleStaHeaderAddEvt]
  split
  · rfl
  obtain ⟨hs, hgoes⟩ := s.findGateway_iface .v4
  rcases hv4 : s.findGateway .v4 with ⟨s₁, b₁⟩
  rcases hv4' : s.iface.findGateway .v4 with ⟨i₁, b₁'⟩
  rw [hv4, hv4'] at hs hgoes
  obtain ⟨rfl, hg⟩ := Prod.mk.inj hs
  obtain rfl : b₁ = b₁' := hgoes
  cases b₁ with
  | false => rw [← hg]; rfl
  | true =>
    dsimp only
    obtain ⟨hs, hgoes⟩ := s₁.findGateway_iface .v6
    rcases hv6 : s₁.findGateway .v6 with ⟨s₂, b₂⟩
    rcases hv6' : s₁.iface.findGateway .v6 with ⟨i₂, b₂'⟩
    rw [hv6, hv6'] at hs hgoes
    obtain ⟨rfl, hg'⟩ := Prod.mk.inj hs
    obtain rfl : b₂ = b₂' := hgoes
    cases b₂ with
    | false => rw [← hg, ← hg']; rfl
    | true =>
      rw [← hg, ← hg']
      dsimp only
      rw [← hwaiting s₂ .v4]
      exact hwaiting _ .v6

theorem handleUpstreamRouteAdd_pair (u : Upstream) :
    (s.handleUpstreamRouteAdd alloc u fw).pair =
      s.iface.handleUpstreamRouteAdd alloc u fw s.statics := by
  rw [handleUpstreamRouteAdd, Iface.handleUpstreamRouteAdd]
  dsimp only
  split
  · rfl
  split
  · rfl
  split
  · rfl
  split
  · have hsta := handleStaHeaderAddEvt_pair alloc { s with iface := s.iface.setGateway u } fw
    generalize handleStaHeaderAddEvt alloc fw { s with iface := s.iface.setGateway u } = s'
      at hsta ⊢
    dsimp only at hsta
    rcases hx : Iface.handleStaHeaderAddEvt alloc fw (s.iface.setGateway u) s.statics with ⟨i, g⟩
    rw [hx] at hsta
    obtain ⟨rfl, rfl⟩ := Prod.mk.inj hsta
    dsimp only
    split <;> rfl
  · rfl

theorem handleNeighClientIpAddrAdd_pair (mac : Mac) (a : Addr) :
    (s.handleNeighClientIpAddrAdd alloc mac a fw).pair =
      s.iface.handleNeighClientIpAddrAdd alloc mac a fw s.statics := by
  rw [handleNeighClientIpAddrAdd, storeNeigh, Iface.handleNeighClientIpAddrAdd]
  by_cases hown : s.iface.conf.staMode = .wlanWan ∧ s.iface.isOwnAddr a = true
  · rw [if_pos hown, if_pos hown]
    rfl
  by_cases hmac : mac = 0
  · rw [if_neg hown, if_neg hown, if_pos hmac, if_pos hmac]
    rfl
  rw [if_neg hown, if_neg hown, if_neg hmac, if_neg hmac]
  dsimp only
  cases (s.iface.handleWanHdrInit alloc mac s.statics).1.handleWanClientIpaddr mac a
      (s.iface.handleWanHdrInit alloc mac s.statics).2 with
  | none => rfl
  | some x => exact handleStaHeaderAddEvt_pair alloc _ fw

end Station

/-! ## Events -/

/-- The events about default routes and neighbours of a station; a route comes with its
gateway. -/
inductive StationEvent
  | upstreamRouteAdd (gw : Addr) (fw : FirewallConf)
  | upstreamRouteDel (ip : IpType)
  | neighClientIpAddrAdd (mac : Mac) (a : Addr) (fw : FirewallConf)

/-- The default route with that gateway. -/
def upstreamBy : Addr → Upstream
  | .v4 gw => .v4 (some gw)
  | .v6 gw => .v6 (some gw)

/-- The event, for the interface of a number. -/
def StationEvent.toWan (ifNum : Nat) : StationEvent → WanEvent
  | .upstreamRouteAdd gw fw => .upstreamRouteAdd ifNum (upstreamBy gw) fw
  | .upstreamRouteDel ip => .upstreamRouteDel ifNum ip
  | .neighClientIpAddrAdd mac a fw => .neighClientIpAddrAdd ifNum mac a fw

namespace Station

variable (alloc : Alloc)

def step (s : Station) : StationEvent → Station
  | .upstreamRouteAdd gw fw => s.handleUpstreamRouteAdd alloc (upstreamBy gw) fw
  | .upstreamRouteDel ip => s.handleUpstreamRouteDel ip
  | .neighClientIpAddrAdd mac a fw => s.handleNeighClientIpAddrAdd alloc mac a fw

def run (s : Station) (evs : List StationEvent) : Station := evs.foldl (step alloc) s

theorem step_eventCallback (s : Station) (ev : StationEvent) :
    s.iface.eventCallback alloc (ev.toWan s.iface.conf.ipaIfNum) s.statics =
      (some (s.step alloc ev).iface, (s.step alloc ev).statics) := by
  cases ev with
  | upstreamRouteAdd gw fw =>
    rw [StationEvent.toWan, Iface.eventCallback, if_pos rfl, ← handleUpstreamRouteAdd_pair]
    rfl
  | upstreamRouteDel ip =>
    rw [StationEvent.toWan, Iface.eventCallback, if_pos rfl]
    rfl
  | neighClientIpAddrAdd mac a fw =>
    rw [StationEvent.toWan, Iface.eventCallback, if_pos rfl, ← handleNeighClientIpAddrAdd_pair]
    rfl

/-- A run of the station is that of an instance that never goes. -/
theorem run_eventCallback (s : Station) (evs : List StationEvent) :
    evs.foldl (fun x ev => x.1.elim x fun i =>
        i.eventCallback alloc (ev.toWan i.conf.ipaIfNum) x.2) (some s.iface, s.statics) =
      (some (s.run alloc evs).iface, (s.run alloc evs).statics) := by
  induction evs generalizing s with
  | nil => rfl
  | cons ev evs ih =>
    rw [List.foldl_cons, Option.elim_some, step_eventCallback]
    exact ih (s.step alloc ev)

end Station

end Axon7.Wan
